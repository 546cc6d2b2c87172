import PatternAction.Proofs.Run.Pending
import PatternAction.Proofs.Run.Trace
import PatternAction.Proofs.Script.Parts
import PatternAction.Script.Source
import PatternAction.Standard

/-!
Breaks and continues are caught by the innermost loop around them.  A statement can only be left by
a break or a continue that stands in it and in no loop inside it, and so a loop is left by neither.
Which functions are called makes no difference: where the body of a function ends in a break or a
continue, the call is over just as it is behind the last statement.
-/

set_option autoImplicit false
set_option relaxedAutoImplicit false

namespace PatternAction

variable {α β : Type}

/-! ## Statements outside of loops -/

namespace Stmt

def isBreak : Stmt → Bool
  | .break _ => true
  | _ => false

def isContinue : Stmt → Bool
  | .continue _ => true
  | _ => false

def isReturn : Stmt → Bool
  | .return _ _ => true
  | _ => false

/-- Whether a statement is a loop of some kind, which breaks and continues in its body are for. -/
def encloses : Stmt → Bool
  | .while _ _ _ | .doWhile _ _ _ | .for _ _ _ _ _ | .forIn _ _ _ _ => true
  | _ => false

end Stmt

mutual

/-- A statement and those in it that stand in no loop inside it. -/
def Stmt.unenclosed : Stmt → List Stmt
  | .expr e => [.expr e]
  | .choice arms l => .choice arms l :: Arm.unenclosedList arms
  | .while c body l => [.while c body l]
  | .doWhile body c l => [.doWhile body c l]
  | .for init c update body l => [.for init c update body l]
  | .forIn name array body l => [.forIn name array body l]
  | .return value l => [.return value l]
  | .break l => [.break l]
  | .continue l => [.continue l]
  | .delete array indices l => [.delete array indices l]

def Block.unenclosed : Block → List Stmt
  | .mk _ statements _ => Stmt.unenclosedList statements

def Arm.unenclosed : Arm → List Stmt
  | .mk _ body => body.unenclosed

def Stmt.unenclosedList : List Stmt → List Stmt
  | [] => []
  | s :: ss => s.unenclosed ++ Stmt.unenclosedList ss

def Arm.unenclosedList : List Arm → List Stmt
  | [] => []
  | arm :: arms => arm.unenclosed ++ Arm.unenclosedList arms

end

private theorem Stmt.mem_unenclosedList {s : Stmt} {ss : List Stmt} :
    s ∈ Stmt.unenclosedList ss ↔ ∃ s' ∈ ss, s ∈ s'.unenclosed := by
  induction ss with
  | nil => simp [unenclosedList]
  | cons s' ss ih => simp [unenclosedList, ih]

private theorem Arm.mem_unenclosedList {s : Stmt} {arms : List Arm} :
    s ∈ Arm.unenclosedList arms ↔
      ∃ s' ∈ arms.flatMap (·.body.statements), s ∈ s'.unenclosed := by
  induction arms with
  | nil => simp [unenclosedList]
  | cons arm arms ih =>
    obtain ⟨condition, ⟨statements, l⟩⟩ := arm
    rw [unenclosedList, List.mem_append, ih, List.flatMap_cons, unenclosed, Block.unenclosed,
      Stmt.mem_unenclosedList]
    simp only [List.mem_append, or_and_right, exists_or, Arm.body, Block.statements]

namespace Stmt

private theorem self_mem_unenclosed (s : Stmt) : s ∈ s.unenclosed := by
  cases s <;> simp [unenclosed]

private theorem unenclosed_subset_of_mem_stmts {s t : Stmt} (open_ : s.encloses = false)
    (h : t ∈ s.stmts) :
    t.unenclosed ⊆ s.unenclosed := by
  cases s with
  | choice arms l =>
    intro u mem
    rw [unenclosed]
    exact List.mem_cons_of_mem _ (Arm.mem_unenclosedList.mpr ⟨t, h, mem⟩)
  | «while» | doWhile | «for» | forIn => cases open_
  | _ => cases h

private theorem eq_of_mem_unenclosed {s t : Stmt} (loop : s.encloses = true)
    (h : t ∈ s.unenclosed) :
    t = s := by
  cases s with
  | «while» | doWhile | «for» | forIn => exact List.mem_singleton.mp h
  | _ => cases loop

end Stmt

/-! ## What a computation can answer -/

namespace Run

def Answers (P : α → Prop) (x : Run α) : Prop :=
  ∀ m a m', x m = .ok a m' → P a

variable {P Q : α → Prop}

private theorem answers_pure {a : α} (h : P a) : (pure a : Run α).Answers P := by
  rintro m b m' ⟨⟩
  exact h

private theorem answers_outOfFuel : (Run.outOfFuel : Run α).Answers P :=
  nofun

private theorem Answers.mono {x : Run α} (h : x.Answers P) (implies : ∀ a, P a → Q a) :
    x.Answers Q :=
  fun m a m' done => implies a (h m a m' done)

private theorem Answers.bind {x : Run β} {R : β → Prop} {f : β → Run α} (hx : x.Answers R)
    (hf : ∀ b, R b → (f b).Answers P) : (x >>= f).Answers P := by
  intro m a m' done
  obtain ⟨b, m₁, first, rest⟩ := ok_of_bind done
  exact hf b (hx m b m₁ first) m₁ a m' rest

private theorem answers_behind {x : Run β} {f : β → Run α} (hf : ∀ b, (f b).Answers P) :
    (x >>= f).Answers P :=
  Answers.bind (R := fun _ => True) (fun _ _ _ _ => trivial) fun b _ => hf b

private theorem answers_ite {p : Prop} [Decidable p] {x y : Run α} (hx : x.Answers P)
    (hy : y.Answers P) :
    (if p then x else y).Answers P := by
  split
  · exact hx
  · exact hy

end Run

/-! ## How loops go on -/

/-- Whether this is for the loop around. -/
def Flow.isJump : Flow → Bool
  | .break | .continue => true
  | .next | .return _ => false

namespace Eval

open Run

variable {P : Flow → Prop} (next : P .next)
include next

private theorem answers_sequence {exec : Stmt → Run Flow} {ss : List Stmt}
    (h : ∀ s ∈ ss, (exec s).Answers P) : (sequence exec ss).Answers P := by
  induction ss with
  | nil => exact answers_pure next
  | cons s ss ih =>
    obtain ⟨first, others⟩ := List.forall_mem_cons.mp h
    refine answers_behind fun _ => answers_ite (answers_pure next) (first.bind fun flow ends => ?_)
    cases flow with
    | next => exact ih others
    | «break» | «continue» | «return» value => exact answers_pure ends

private theorem answers_choose {eval : Expr → Run Value} {exec : Stmt → Run Flow} {arms : List Arm}
    (h : ∀ s ∈ arms.flatMap (·.body.statements), (exec s).Answers P) :
    (choose eval exec arms).Answers P := by
  induction arms with
  | nil => exact answers_pure next
  | cons arm arms ih =>
    rw [List.flatMap_cons, List.forall_mem_append] at h
    exact answers_behind fun _ => answers_ite (answers_sequence next h.1) (ih h.2)

private theorem answers_afterBody {rest : Run Flow} {flow : Flow} (ends : P flow)
    (h : rest.Answers fun flow => flow.isJump = false ∧ P flow) :
    (afterBody rest flow).Answers fun flow => flow.isJump = false ∧ P flow := by
  cases flow with
  | next | «continue» => exact h
  | «break» => exact answers_pure ⟨rfl, next⟩
  | «return» value => exact answers_pure ⟨rfl, ends⟩

variable {body : Run Flow} (hbody : body.Answers P)
include hbody

private theorem answers_loop (test : Run Bool) (update : Run Unit) (rounds : Nat) :
    (loop test body update rounds).Answers fun flow => flow.isJump = false ∧ P flow := by
  induction rounds with
  | zero => exact answers_outOfFuel
  | succ rounds ih =>
    refine answers_behind fun _ => answers_ite (answers_pure ⟨rfl, next⟩) ?_
    refine answers_behind fun _ => answers_ite ?_ (answers_pure ⟨rfl, next⟩)
    exact hbody.bind fun flow ends => answers_afterBody next ends (answers_behind fun _ => ih)

private theorem answers_forEach (name array : String) (keys : List String) :
    (forEach name array body keys).Answers fun flow => flow.isJump = false ∧ P flow := by
  induction keys with
  | nil => exact answers_pure ⟨rfl, next⟩
  | cons key keys ih =>
    refine answers_behind fun _ => answers_ite (answers_pure ⟨rfl, next⟩) ?_
    refine answers_behind fun value? => ?_
    cases value? with
    | none => exact ih
    | some value =>
      refine answers_behind fun _ => ?_
      exact hbody.bind fun flow ends => answers_afterBody next ends ih

end Eval

/-! ## How statements are left -/

namespace Stmt

/-- There is something in a statement by which it can be left in this way. -/
def CanLeave (s : Stmt) : Flow → Prop
  | .next => True
  | .break => ∃ t ∈ s.unenclosed, t.isBreak = true
  | .continue => ∃ t ∈ s.unenclosed, t.isContinue = true
  | .return _ => ∃ t ∈ s.within, t.isReturn = true

variable {s t : Stmt} {flow : Flow} (mem : t ∈ s.stmts) (h : t.CanLeave flow)
include mem h

private theorem CanLeave.around (open_ : s.encloses = false) : s.CanLeave flow := by
  cases flow with
  | next => trivial
  | «break» | «continue» =>
    obtain ⟨u, inside, jump⟩ := h
    exact ⟨u, unenclosed_subset_of_mem_stmts open_ mem inside, jump⟩
  | «return» value =>
    obtain ⟨u, inside, leaves⟩ := h
    exact ⟨u, within_subset_of_mem_stmts mem inside, leaves⟩

private theorem CanLeave.past (noJump : flow.isJump = false) : s.CanLeave flow := by
  cases flow with
  | next => trivial
  | «break» | «continue» => cases noJump
  | «return» value =>
    obtain ⟨u, inside, leaves⟩ := h
    exact ⟨u, within_subset_of_mem_stmts mem inside, leaves⟩

end Stmt

private theorem Stmt.CanLeave.of_loop {s : Stmt} {flow : Flow} (h : s.CanLeave flow)
    (loop : s.encloses = true) : flow = .next ∨ ∃ value, flow = .return value := by
  cases flow with
  | next => exact .inl rfl
  | «return» value => exact .inr ⟨value, rfl⟩
  | «break» | «continue» =>
    obtain ⟨t, mem, jump⟩ := h
    rw [eq_of_mem_unenclosed loop mem] at jump
    cases s with
    | «break» | «continue» => cases loop
    | _ => cases jump

private theorem Stmt.CanLeave.of_plain {s : Stmt} {flow : Flow} (h : s.CanLeave flow)
    (noJump : ∀ t ∈ s.unenclosed, t.isBreak = false ∧ t.isContinue = false)
    (noReturn : ∀ t ∈ s.within, t.isReturn = false) : flow = .next := by
  cases flow with
  | next => rfl
  | «break» =>
    obtain ⟨t, mem, jump⟩ := h
    cases (noJump t mem).1.symm.trans jump
  | «continue» =>
    obtain ⟨t, mem, jump⟩ := h
    cases (noJump t mem).2.symm.trans jump
  | «return» value =>
    obtain ⟨t, mem, leaves⟩ := h
    cases (noReturn t mem).symm.trans leaves

/-- One of some statements can be left in this way, or they come to their end. -/
def Flow.ByOneOf (ss : List Stmt) (flow : Flow) : Prop :=
  flow = .next ∨ ∃ s ∈ ss, s.CanLeave flow

section AnyPlatform

variable [Platform]

namespace Eval

open Run

omit [Platform] in
private theorem answers_statements {exec : Stmt → Run Flow} {ss : List Stmt}
    (h : ∀ s ∈ ss, (exec s).Answers s.CanLeave) : (sequence exec ss).Answers (Flow.ByOneOf ss) := by
  refine answers_sequence (.inl rfl) fun s mem => (h s mem).mono fun flow leaves => ?_
  exact .inr ⟨s, mem, leaves⟩

private theorem answers_statement (rounds : Nat) (eval : Expr → Run Value) {exec : Stmt → Run Flow}
    {s : Stmt} (h : ∀ t ∈ s.stmts, (exec t).Answers t.CanLeave) :
    (statement rounds eval exec s).Answers s.CanLeave := by
  have body := answers_statements h
  have pastLoop (flow : Flow) (ends : flow.isJump = false ∧ flow.ByOneOf s.stmts) :
      s.CanLeave flow := by
    obtain ⟨noJump, rfl | ⟨t, mem, leaves⟩⟩ := ends
    · trivial
    · exact leaves.past mem noJump
  cases s with
  | expr e => exact answers_behind fun _ => answers_pure trivial
  | choice arms l =>
    exact answers_choose trivial fun t mem =>
      (h t mem).mono fun flow leaves => leaves.around mem rfl
  | «while» c b l => exact (answers_loop (.inl rfl) body _ _ rounds).mono pastLoop
  | doWhile b c l =>
    refine body.bind fun flow ends => ?_
    exact (answers_afterBody (.inl rfl) ends
      (answers_loop (.inl rfl) body _ _ rounds)).mono pastLoop
  | «for» init c update b l =>
    exact answers_behind fun _ => (answers_loop (.inl rfl) body _ _ rounds).mono pastLoop
  | forIn name array b l =>
    exact answers_behind fun ks => (answers_forEach (.inl rfl) body name array ks).mono pastLoop
  | «return» value l =>
    have leaves (v : Option Scalar) : (Stmt.return value l).CanLeave (.return v) :=
      ⟨_, Stmt.self_mem_within _, rfl⟩
    cases value with
    | none => exact answers_pure (leaves none)
    | some e => exact answers_behind fun v => answers_pure (leaves (some v))
  | «break» l => exact answers_pure ⟨_, Stmt.self_mem_unenclosed _, rfl⟩
  | «continue» l => exact answers_pure ⟨_, Stmt.self_mem_unenclosed _, rfl⟩
  | delete array indices l =>
    cases indices with
    | nil => exact answers_behind fun _ => answers_pure trivial
    | cons e es => exact answers_behind fun _ => answers_behind fun _ => answers_pure trivial

end Eval

private theorem Program.answers_exec (p : Program) (fuel : Nat) (s : Stmt) :
    (p.exec fuel s).Answers s.CanLeave := by
  induction fuel generalizing s with
  | zero => exact Run.answers_outOfFuel
  | succ fuel ih => exact Eval.answers_statement fuel (p.eval fuel) fun t _ => ih t

/-! ## How functions are left -/

namespace Program

variable {p : Program} {fuel : Nat} {name : String} {args : List Expr}
  {m m' : Machine} {flow : Flow}

/-- A call of a name runs the body of a function, the body ends in this way, and the call leaves
this state. -/
def EndsBody (p : Program) (fuel : Nat) (name : String) (args : List Expr) (m : Machine)
    (flow : Flow) (m' : Machine) : Prop :=
  ∃ f values frame m₁ m₂,
    Builtin.ofName? name = none ∧ p.function? name = some f ∧ args.length = f.params.length ∧
    Eval.arguments (p.eval fuel) args m = .ok values m₁ ∧
    Run.withFrame (Eval.bindParams f.params values) (Eval.sequence (p.exec fuel) f.body) m₁ =
      .ok (flow, frame) m₂ ∧
    Eval.writeBack args (Eval.paramValues f.params frame) m₂ = .ok () m'

namespace EndsBody

variable (ends : p.EndsBody fuel name args m flow m')
include ends

private theorem eval (l : Location) :
    p.eval (fuel + 1) (.call name args l) m = .ok (.scalar (Eval.returned flow)) m' := by
  obtain ⟨f, values, frame, m₁, m₂, own, found, counted, passed, ran, back⟩ := ends
  have function : Eval.callFunction (p.eval fuel) (p.exec fuel) f args l m =
      .ok (Eval.returned flow) m' := by
    rw [Eval.callFunction, if_pos counted, Run.bind_ok passed]
    refine (Run.bind_ok ran).trans ?_
    exact Run.bind_ok back
  have byName : Eval.call p (p.eval fuel) (p.exec fuel) name args l m =
      .ok (Eval.returned flow) m' := by
    simp only [Eval.call, own, found]
    exact function
  exact Run.bind_ok byName

private theorem exec (l : Location) :
    p.exec (fuel + 2) (.expr (.call name args l)) m = .ok .next m' :=
  Run.bind_ok (ends.eval l)

end EndsBody

/-- Breaks and continues are for the innermost loop around them.  A statement is only left by a
break or a continue that stands in it and in no loop inside it, so a loop comes to its end or
returns, and statements without such a jump and without a return come to their end.  A break or a
continue that is left over at the end of the body of a function is gone with the call: the call is
empty, and what stands behind it is done. -/
theorem jumps_stay_inside (p : Program) (fuel : Nat) :
    (∀ s m flow m', p.exec fuel s m = .ok flow m' →
      (flow = .break → ∃ t ∈ s.unenclosed, t.isBreak = true) ∧
      (flow = .continue → ∃ t ∈ s.unenclosed, t.isContinue = true) ∧
      (s.encloses = true → flow = .next ∨ ∃ value, flow = .return value)) ∧
    (∀ ss m flow m', Eval.sequence (p.exec fuel) ss m = .ok flow m' →
      (∀ s ∈ ss, (∀ t ∈ s.unenclosed, t.isBreak = false ∧ t.isContinue = false) ∧
        ∀ t ∈ s.within, t.isReturn = false) →
      flow = .next) ∧
    (∀ name args l m flow m', p.EndsBody fuel name args m flow m' → flow.isJump = true →
      p.eval (fuel + 1) (.call name args l) m = .ok (.scalar .empty) m' ∧
      p.exec (fuel + 2) (.expr (.call name args l)) m = .ok .next m' ∧
      (m.exit? = none → ∀ ss,
        Eval.sequence (p.exec (fuel + 2)) (.expr (.call name args l) :: ss) m =
          Eval.sequence (p.exec (fuel + 2)) ss m')) := by
  refine ⟨fun s m flow m' done => ?_, fun ss m flow m' done plain => ?_,
    fun name args l m flow m' ends jumps => ?_⟩
  · have leaves : s.CanLeave flow := p.answers_exec fuel s m flow m' done
    refine ⟨?_, ?_, leaves.of_loop⟩
    · rintro rfl
      exact leaves
    · rintro rfl
      exact leaves
  · have ends : flow.ByOneOf ss :=
      Eval.answers_statements (fun s _ => p.answers_exec fuel s) m flow m' done
    obtain rfl | ⟨s, mem, leaves⟩ := ends
    · rfl
    · exact leaves.of_plain (plain s mem).1 (plain s mem).2
  · have empty : Eval.returned flow = .empty := by
      cases flow with
      | «return» value => cases jumps
      | _ => rfl
    refine ⟨empty ▸ ends.eval l, ends.exec l, fun running ss => ?_⟩
    rw [Eval.sequence, Run.exitPending_bind, running]
    exact Run.bind_ok (ends.exec l)

end Program

end AnyPlatform

namespace Program

/-- A break within a choice, in a loop within a loop, behind the call of a function whose body ends
in a break of its own: both rounds of the outer loop come to their end. -/
theorem jumps_stay_inside_nested :
    let l := Location.unknown
    let i := Expr.var "i" l
    let count (name : String) := Stmt.expr (.stepBy .postInc (.var name l) l)
    let f : Function := ⟨"f", ["x"], [count "n", .break l], l⟩
    let call := Expr.call "f" [i] l
    let leave := Stmt.choice [.mk (some (.const "1")) (.mk none [.break l] l)] l
    let inner := Stmt.while (.const "1") (.mk none [leave, count "j"] l) l
    let outer := Stmt.for (some (.assign .plain i (.const "0") l))
      (some (.binary .lt i (.const "2") l)) (some (.stepBy .postInc i l))
      (.mk none [.expr call, inner, count "k"] l) l
    let p : Program := ⟨[f], [.mk none [outer] l], [], []⟩
    let start := Machine.ofRecords (.ofLines [])
    (∃ m, p.exec 12 leave start = .ok .break m ∧ ∃ t ∈ leave.unenclosed, t.isBreak = true) ∧
      (∃ flow m, p.exec 12 inner start = .ok flow m ∧ inner.encloses = true ∧
        (flow = .next ∨ ∃ value, flow = .return value)) ∧
      (∃ flow m, Eval.sequence (p.exec 12) [outer] start = .ok flow m ∧ flow = .next ∧
        m.globals.scalar "k" = ⟨"2.0"⟩) ∧
      ∃ m, p.EndsBody 10 "f" [i] start .break m ∧ Flow.isJump .break = true ∧
        start.exit? = none ∧ p.eval 11 call start = .ok (.scalar .empty) m ∧
        Eval.sequence (p.exec 12) [.expr call, inner] start =
          Eval.sequence (p.exec 12) [inner] m := by
  intro l i count f call leave inner outer p start
  obtain ⟨left, plain, -⟩ := p.jumps_stay_inside 12
  obtain ⟨-, -, called⟩ := p.jumps_stay_inside 10
  have leaves : p.exec 12 leave start = .ok .break (Run.stateOf (p.exec 12 leave start)) :=
    Run.eq_ok_of_answer? (by decide +kernel)
  have ended : p.exec 12 inner start = .ok .next (Run.stateOf (p.exec 12 inner start)) :=
    Run.eq_ok_of_answer? (by decide +kernel)
  have whole : Eval.sequence (p.exec 12) [outer] start =
      .ok .next (Run.stateOf (Eval.sequence (p.exec 12) [outer] start)) :=
    Run.eq_ok_of_answer? (by decide +kernel)
  let frame := Eval.bindParams ["x"] [.empty]
  let last := Run.stateOf (Eval.sequence (p.exec 10) f.body { start with frames := [frame] })
  have ran : Eval.sequence (p.exec 10) f.body { start with frames := [frame] } =
      .ok .break last := Run.eq_ok_of_answer? (by decide +kernel)
  have body : Run.withFrame frame (Eval.sequence (p.exec 10) f.body) start =
      .ok (.break, last.frames.headD .empty) { last with frames := last.frames.tail } := by
    rw [Run.withFrame, show start.frames = [] from rfl, ran]
  have ends : p.EndsBody 10 "f" [i] start .break _ :=
    ⟨f, [.empty], _, start, _, by decide, rfl, rfl, rfl, body,
      Run.eq_ok_of_answer? (by decide +kernel)⟩
  obtain ⟨value, -, goesOn⟩ := called "f" [i] l start .break _ ends rfl
  refine ⟨⟨_, leaves, (left _ _ _ _ leaves).1 rfl⟩,
    ⟨_, _, ended, rfl, (left _ _ _ _ ended).2.2 rfl⟩,
    ⟨_, _, whole, plain _ _ _ _ whole (by decide +kernel), by decide +kernel⟩,
    _, ends, rfl, rfl, value, goesOn rfl [inner]⟩

end Program

end PatternAction
