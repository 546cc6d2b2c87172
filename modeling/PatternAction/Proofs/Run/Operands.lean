import PatternAction.Proofs.Run.Faults
import PatternAction.Proofs.Run.Named
import PatternAction.Standard

/-!
Operators and their operands.  A tree is well formed if its operators stand where they can be
evaluated: those between two operands have both, those of one operand have no other, `++` and `--`
are the values of the assignments they stand for, and an assignment by an operator stores the target
combined with a value.  Only rules have guards.

The main statement is that every script read from a text is well formed, and that the run of a
well-formed script never halts for want of an operand, in whatever state it starts.
-/

set_option autoImplicit false
set_option relaxedAutoImplicit false

namespace PatternAction

/-! ## Well-formed trees -/

namespace Operator

/-- The operators that change their operand. -/
def isStep (op : Operator) : Bool :=
  op ∈ [.preInc, .preDec, .postInc, .postDec]

def isArithmetic (op : Operator) : Bool :=
  op ∈ [.add, .subtract, .multiply, .divide, .modulo, .exponent]

end Operator

/-- The expressions whose operators stand where they can be evaluated. -/
inductive Expr.WellFormed : Expr → Prop
  | const (text : String) : WellFormed (.const text)
  | pattern (text : String) : WellFormed (.pattern text)
  | var (name : String) (l : Location) : WellFormed (.var name l)
  | elem {name : String} {index : Expr} {l : Location} :
      WellFormed index → WellFormed (.elem name index l)
  | unary {op : Operator} {e : Expr} {l : Location} :
      op.isBinary = false → op.isStep = false → WellFormed e → WellFormed (.unary op e l)
  | binary {op : Operator} {a b : Expr} {l : Location} :
      op.isBinary = true → WellFormed a → WellFormed b → WellFormed (.binary op a b l)
  | ternary {c a b : Expr} {l : Location} :
      WellFormed c → WellFormed a → WellFormed b → WellFormed (.ternary c a b l)
  | call {name : String} {args : List Expr} {l : Location} :
      (∀ e ∈ args, WellFormed e) → WellFormed (.call name args l)
  | assign {target value : Expr} {l : Location} :
      WellFormed target → WellFormed value → WellFormed (.assign .plain target value l)
  | compound {op : Operator} {target value : Expr} {l l' : Location} :
      op.isArithmetic = true → WellFormed target → WellFormed value →
      WellFormed (.assign (.compound op) target (.binary op target value l') l)
  | step {op : Operator} {target : Expr} {l l' : Location} :
      op.isStep = true → WellFormed target →
      WellFormed (.assign .step target (.unary op target l') l)

/-- The arms of a choice: at least one, the first with a condition, and only the last may be
without. -/
structure Arm.Ordered (arms : List Arm) : Prop where
  nonempty : arms ≠ []
  first : ∀ arm ∈ arms.head?, arm.condition.isSome = true
  front : ∀ arm ∈ arms.dropLast, arm.condition.isSome = true

/-- The statements whose expressions are well formed and whose choices are ordered. -/
inductive Stmt.WellFormed : Stmt → Prop
  | expr {e : Expr} : e.WellFormed → WellFormed (.expr e)
  | choice {arms : List Arm} {l : Location} :
      Arm.Ordered arms → (∀ arm ∈ arms, ∀ e ∈ arm.condition, e.WellFormed) →
      (∀ arm ∈ arms, arm.body.guard = none) →
      (∀ arm ∈ arms, ∀ s ∈ arm.body.statements, WellFormed s) → WellFormed (.choice arms l)
  | while {c : Expr} {body : Block} {l : Location} :
      c.WellFormed → body.guard = none → (∀ s ∈ body.statements, WellFormed s) →
      WellFormed (.while c body l)
  | doWhile {c : Expr} {body : Block} {l : Location} :
      body.guard = none → (∀ s ∈ body.statements, WellFormed s) → c.WellFormed →
      WellFormed (.doWhile body c l)
  | for {init c update : Option Expr} {body : Block} {l : Location} :
      (∀ e ∈ init, e.WellFormed) → (∀ e ∈ c, e.WellFormed) → (∀ e ∈ update, e.WellFormed) →
      body.guard = none → (∀ s ∈ body.statements, WellFormed s) →
      WellFormed (.for init c update body l)
  | forIn {name array : String} {body : Block} {l : Location} :
      body.guard = none → (∀ s ∈ body.statements, WellFormed s) →
      WellFormed (.forIn name array body l)
  | return {value : Option Expr} {l : Location} :
      (∀ e ∈ value, e.WellFormed) → WellFormed (.return value l)
  | break (l : Location) : WellFormed (.break l)
  | continue (l : Location) : WellFormed (.continue l)
  | delete {array : String} {indices : List Expr} {l : Location} :
      (∀ e ∈ indices, e.WellFormed) → WellFormed (.delete array indices l)

/-- The scripts that are well formed in their functions, blocks and rules; the blocks before and
after the records have no guards. -/
structure Program.WellFormed (p : Program) : Prop where
  functions : ∀ f ∈ p.functions, ∀ s ∈ f.body, s.WellFormed
  begins : ∀ b ∈ p.begins, b.guard = none ∧ ∀ s ∈ b.statements, s.WellFormed
  ends : ∀ b ∈ p.ends, b.guard = none ∧ ∀ s ∈ b.statements, s.WellFormed
  guards : ∀ r ∈ p.rules, ∀ e ∈ r.guard, e.WellFormed
  rules : ∀ r ∈ p.rules, ∀ s ∈ r.statements, s.WellFormed

/-! ## Scripts read from texts -/

section Built

variable {among : Token → Prop}

private theorem Arm.ordered_all {guarded : List (Expr × Block)} (nonempty : guarded ≠ [])
    (otherwise : Option Block) : Arm.Ordered (Arm.all guarded otherwise) := by
  obtain ⟨g, gs, rfl⟩ := List.exists_cons_of_ne_nil nonempty
  refine ⟨nofun, ?_, ?_⟩
  · intro arm mem
    obtain rfl := Option.some.inj mem
    rfl
  · intro arm mem
    have guards : ∀ arm ∈ (g :: gs).map fun g => Arm.mk (some g.1) g.2,
        arm.condition.isSome = true := by
      intro arm mem
      obtain ⟨g, -, rfl⟩ := List.mem_map.mp mem
      rfl
    cases otherwise with
    | none =>
      rw [Arm.all, Option.toList_none, List.map_nil, List.append_nil] at mem
      exact guards arm (List.dropLast_subset _ mem)
    | some b =>
      rw [Arm.all, Option.toList_some, List.map_singleton, List.dropLast_concat] at mem
      exact guards arm mem

private theorem Expr.Built.wellFormed {e : Expr} (h : e.Built among) : e.WellFormed := by
  induction h with
  | const text => exact .const text
  | pattern text => exact .pattern text
  | var => exact .var _ _
  | elem _ _ _ ih => exact .elem ih
  | @unary op _ _ sign _ _ ih =>
    have single : ∀ op ∈ [Operator.not, .unaryNeg, .unaryPos, .dollar],
        op.isBinary = false ∧ op.isStep = false := by decide
    exact .unary (single op sign).1 (single op sign).2 ih
  | binary two _ _ _ iha ihb => exact .binary two iha ihb
  | ternary _ _ _ _ ihc iha ihb => exact .ternary ihc iha ihb
  | call _ _ _ ih => exact .call ih
  | assign _ _ _ iht ihv => exact .assign iht ihv
  | @compound op _ _ _ sign _ _ _ iht ihv =>
    have arithmetic : ∀ op ∈ Grammar.compounds.map Prod.snd, op.isArithmetic = true := by decide
    exact .compound (arithmetic op sign) iht ihv
  | stepBy step _ _ ih => exact .step (decide_eq_true step) ih

private theorem Stmt.Built.wellFormed {s : Stmt} (h : s.Built among) : s.WellFormed := by
  induction h with
  | expr he => exact .expr he.wellFormed
  | @choice guarded otherwise _ nonempty conditions bare _ _ ih =>
    refine .choice (Arm.ordered_all nonempty otherwise) ?_ ?_ ?_
    · refine Arm.forall_mem_all.mpr ⟨fun g mem e same => ?_, fun b _ => nofun⟩
      exact Option.some.inj same ▸ (conditions g mem).wellFormed
    · refine Arm.forall_mem_all.mpr ⟨fun g mem => ?_, fun b mem => ?_⟩
      · exact (bare g.2 (List.mem_append_left _ (List.mem_map_of_mem mem))).guard
      · exact (bare b (List.mem_append_right _ mem)).guard
    · refine Arm.forall_mem_all.mpr ⟨fun g mem => ?_, fun b mem => ?_⟩
      · exact ih g.2 (List.mem_append_left _ (List.mem_map_of_mem mem))
      · exact ih b (List.mem_append_right _ mem)
  | «while» hc bare _ _ ih => exact .while hc.wellFormed bare.guard ih
  | doWhile bare _ hc _ ih => exact .doWhile bare.guard ih hc.wellFormed
  | «for» hinit hc hupdate bare _ _ ih =>
    exact .for (fun e mem => (hinit e mem).wellFormed) (fun e mem => (hc e mem).wellFormed)
      (fun e mem => (hupdate e mem).wellFormed) bare.guard ih
  | forIn _ _ bare _ _ ih => exact .forIn bare.guard ih
  | «return» hvalue _ => exact .return fun e mem => (hvalue e mem).wellFormed
  | «break» => exact .break _
  | «continue» => exact .continue _
  | delete _ hindices _ => exact .delete fun e mem => (hindices e mem).wellFormed

private theorem Program.Built.wellFormed {p : Program} (h : p.Built among) : p.WellFormed where
  functions f mem s inside := ((h.functions f mem).body s inside).wellFormed
  begins b mem := ⟨(h.begins b mem).guard, fun s inside =>
    ((h.begins b mem).statements s inside).wellFormed⟩
  ends b mem := ⟨(h.ends b mem).guard, fun s inside =>
    ((h.ends b mem).statements s inside).wellFormed⟩
  guards r mem e inside := ((h.rules r mem).guard e inside).wellFormed
  rules r mem s inside := ((h.rules r mem).statements s inside).wellFormed

end Built

/-! ## Runs that never lack an operand -/

/-- Every step is allowed, and every halt but for want of an operand. -/
def Licence.operands : Licence :=
  ⟨fun _ => True, fun halt => halt.isPlain = true, fun _ => True, nofun⟩

instance : Licence.Lenient .operands :=
  ⟨fun _ plain => plain, fun _ _ _ => trivial⟩

private theorem Expr.asksWrite_operands (e : Expr) : e.AsksWrite .operands := by
  unfold Expr.AsksWrite
  split
  · trivial
  · exact fun _ => trivial
  · exact fun _ _ _ => trivial
  · exact fun _ _ _ => trivial
  · trivial

private theorem Expr.asksBack_operands (e : Expr) : e.AsksBack .operands := by
  unfold Expr.AsksBack
  split
  · exact fun _ => trivial
  · trivial

private theorem Expr.WellFormed.asks {e : Expr} (h : e.WellFormed) : e.Asks .operands := by
  induction h with
  | const | pattern | var => trivial
  | elem _ ih => exact ih
  | unary single _ _ ih => exact ⟨fun two => absurd (single ▸ two) Bool.false_ne_true, ih⟩
  | binary _ _ _ iha ihb => exact ⟨iha, ihb⟩
  | ternary _ _ _ ihc iha ihb => exact ⟨ihc, iha, ihb⟩
  | call _ ih =>
    refine ⟨fun _ _ => trivial, Expr.allAsk_iff.mpr ?_⟩
    intro e mem
    exact ⟨e.asksBack_operands, ih e mem⟩
  | assign _ _ iht ihv => exact ⟨Expr.asksWrite_operands _, iht, ihv⟩
  | compound _ _ _ iht ihv => exact ⟨Expr.asksWrite_operands _, iht, iht, ihv⟩
  | step isStep _ ih =>
    exact ⟨Expr.asksWrite_operands _, ih,
      Operator.mayLack_of_single (.inr (of_decide_eq_true isStep)), ih⟩

private theorem Stmt.WellFormed.asks {s : Stmt} (h : s.WellFormed) : s.Asks .operands := by
  induction h with
  | expr he => exact he.asks
  | choice _ conditions _ _ ih =>
    rw [Stmt.Asks, Arm.allAsk_iff]
    intro arm mem
    obtain ⟨condition, body⟩ := arm
    exact ⟨fun e same => (conditions _ mem e same).asks, Block.asks_iff.mpr (ih _ mem)⟩
  | «while» hc _ _ ih => exact ⟨hc.asks, Block.asks_iff.mpr ih⟩
  | doWhile _ _ hc ih => exact ⟨Block.asks_iff.mpr ih, hc.asks⟩
  | «for» hinit hc hupdate _ _ ih =>
    exact ⟨fun e mem => (hinit e mem).asks, fun e mem => (hc e mem).asks,
      fun e mem => (hupdate e mem).asks, Block.asks_iff.mpr ih⟩
  | forIn _ _ ih => exact ⟨fun _ => trivial, Block.asks_iff.mpr ih⟩
  | «return» hvalue => exact fun e mem => (hvalue e mem).asks
  | «break» | «continue» => trivial
  | @delete _ indices _ hindices =>
    cases indices with
    | nil => trivial
    | cons => exact ⟨fun _ => trivial, fun e mem => (hindices e mem).asks⟩

private theorem Program.WellFormed.asks {p : Program} (h : p.WellFormed) : p.Asks .operands where
  functions f mem := Stmt.allAsk_iff.mpr fun s inside => (h.functions f mem s inside).asks
  begins b mem := Block.asks_iff.mpr fun s inside => ((h.begins b mem).2 s inside).asks
  ends b mem := Block.asks_iff.mpr fun s inside => ((h.ends b mem).2 s inside).asks
  guards r mem e inside := (h.guards r mem e inside).asks
  rules r mem := Stmt.allAsk_iff.mpr fun s inside => (h.rules r mem s inside).asks

section AnyPlatform

variable [Platform]

private theorem Composed.halts {α : Type} {allowed : Licence} [allowed.Lenient] {x : Run α}
    (h : Composed allowed x) : x.HaltsBy fun halt => halt = .aborted ∨ allowed.halt halt := by
  induction h with
  | pure a => rintro m m' halt ⟨⟩
  | throw halt ok =>
    rintro m m' _ ⟨⟩
    exact .inr ok
  | bind _ _ ihx ihf => exact ihx.bind ihf
  | withFrame frame _ ih => exact ih.withFrame frame
  | step s _ =>
    exact Run.haltsBy_step (fun f _ => .inr (Licence.Lenient.halts _ rfl)) (.inl rfl) s

private theorem Program.WellFormed.haltsBy_run {p : Program} (h : p.WellFormed) (fuel : Nat) :
    (p.run fuel).HaltsBy fun halt => halt = .aborted ∨ halt.isPlain = true :=
  (twin_run (fun _ _ => trivial) h.asks fuel).composed.halts

/-- A script that is read from a text is well formed, and from whatever state it is run, with any
records and globals, no operator in it ever lacks an operand. -/
theorem Program.operands_present {source : String} {p : Program} (read : ofSource source = .ok p) :
    p.WellFormed ∧ ∀ (fuel : Nat) (start m : Machine) (op : Operator) (l : Option Location),
      p.run fuel start ≠ .error (.fault (.failure (.missingOperand op) l)) m := by
  obtain ⟨tokens, -, built⟩ := built_of_ofSource read
  refine ⟨built.wellFormed, ?_⟩
  intro fuel start m op l failed
  rcases built.wellFormed.haltsBy_run fuel start m _ failed with aborted | plain
  · cases aborted
  · cases plain

end AnyPlatform

/-- A script with a function, a loop over an array, a choice, a step and an assignment by an
operator. -/
theorem Program.operands_present_function :
    let source := "function f(x) \x7b if (x > 1) return -x; else return x++ \x7d " ++
      "\x7b n += f($1); a[n] = !n; for (k in a) print k, a[k] * 2 \x7d"
    ∃ p, ofSource source = .ok p ∧ p.WellFormed ∧
      ∀ m op l, p.run 40 (Machine.ofRecords (.ofLines ["4 2", "1"])) ≠
        .error (.fault (.failure (.missingOperand op) l)) m := by
  intro source
  have accepted : (ofSource source).toOption.isSome = true := by decide +kernel
  cases read : ofSource source with
  | error halt =>
    rw [read] at accepted
    cases accepted
  | ok p =>
    have present := operands_present read
    exact ⟨p, rfl, present.1, fun m op l => present.2 40 _ m op l⟩

end PatternAction
