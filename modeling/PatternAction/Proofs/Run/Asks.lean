import PatternAction.Phases
import PatternAction.Proofs.Run.Step
import PatternAction.Proofs.Script.Parts

/-!
Which steps a script asks for can be seen from its text.  `Asks` says that the names it binds and
unbinds, the fields it writes and the functions it calls need none but allowed steps, and that an
operator between two operands has both of them, unless it may lack one.  What an expression or a
statement asks for is what it asks for itself, and what its parts ask for.
-/

set_option autoImplicit false
set_option relaxedAutoImplicit false

namespace PatternAction

/-! ## What a script asks for -/

section Asks

variable (allowed : Licence)

def Binds (name : String) : Prop :=
  ∀ value, allowed (.store name value)

def BindsArrays (name : String) : Prop :=
  ∀ table, allowed (.store name (.array table))

variable {allowed} in
theorem Binds.arrays {name : String} (h : Binds allowed name) : BindsArrays allowed name :=
  fun table => h (.array table)

def Expr.AsksWrite : Expr → Prop
  | .var name _ => allowed.assign name
  | .elem name _ _ => BindsArrays allowed name
  | .unary .dollar _ _ | .binary .dollar _ _ _ =>
    ∀ name value, hasFieldSign name = true → allowed (.setGlobal name value)
  | _ => True

/-- What is asked for by a call with this argument, which may come back as an array. -/
def Expr.AsksBack : Expr → Prop
  | .var name _ => BindsArrays allowed name
  | _ => True

mutual

def Expr.Asks : Expr → Prop
  | .const _ | .pattern _ | .var _ _ => True
  | .elem _ index _ => index.Asks
  | .unary op e _ => (op.isBinary = true → allowed.MayLack op) ∧ e.Asks
  | .binary _ a b _ => a.Asks ∧ b.Asks
  | .ternary c a b _ => c.Asks ∧ a.Asks ∧ b.Asks
  | .call _ args _ => (∀ s : Step, s.serves = true → allowed s) ∧ Expr.AllAsk args
  | .assign _ target value _ => target.AsksWrite allowed ∧ target.Asks ∧ value.Asks

def Expr.AllAsk : List Expr → Prop
  | [] => True
  | e :: es => (e.AsksBack allowed ∧ e.Asks) ∧ Expr.AllAsk es

end

mutual

def Stmt.Asks : Stmt → Prop
  | .expr e => e.Asks allowed
  | .choice arms _ => Arm.AllAsk arms
  | .while c body _ => c.Asks allowed ∧ body.Asks
  | .doWhile body c _ => body.Asks ∧ c.Asks allowed
  | .for init c update body _ =>
    (∀ e ∈ init, e.Asks allowed) ∧ (∀ e ∈ c, e.Asks allowed) ∧ (∀ e ∈ update, e.Asks allowed) ∧
      body.Asks
  | .forIn name _ body _ => Binds allowed name ∧ body.Asks
  | .return value _ => ∀ e ∈ value, e.Asks allowed
  | .break _ | .continue _ => True
  | .delete array [] _ => allowed (.remove array)
  | .delete array indices _ => BindsArrays allowed array ∧ ∀ e ∈ indices, e.Asks allowed

def Block.Asks : Block → Prop
  | .mk _ statements _ => Stmt.AllAsk statements

def Arm.Asks : Arm → Prop
  | .mk condition body => (∀ e ∈ condition, e.Asks allowed) ∧ body.Asks

def Stmt.AllAsk : List Stmt → Prop
  | [] => True
  | s :: ss => s.Asks ∧ Stmt.AllAsk ss

def Arm.AllAsk : List Arm → Prop
  | [] => True
  | arm :: arms => arm.Asks ∧ Arm.AllAsk arms

end

/-- A script asks for allowed steps only, in its functions, blocks and rules. -/
structure Program.Asks (p : Program) : Prop where
  functions : ∀ f ∈ p.functions, Stmt.AllAsk allowed f.body
  begins : ∀ b ∈ p.begins, b.Asks allowed
  ends : ∀ b ∈ p.ends, b.Asks allowed
  guards : ∀ r ∈ p.rules, ∀ e ∈ r.guard, e.Asks allowed
  rules : ∀ r ∈ p.rules, Stmt.AllAsk allowed r.statements

end Asks

section Lists

variable {allowed : Licence}

theorem Expr.allAsk_iff {es : List Expr} :
    Expr.AllAsk allowed es ↔ ∀ e ∈ es, e.AsksBack allowed ∧ e.Asks allowed := by
  induction es with
  | nil => exact ⟨fun _ => nofun, fun _ => trivial⟩
  | cons e es ih => rw [Expr.AllAsk, ih, List.forall_mem_cons]

theorem Stmt.allAsk_iff {ss : List Stmt} :
    Stmt.AllAsk allowed ss ↔ ∀ s ∈ ss, s.Asks allowed := by
  induction ss with
  | nil => exact ⟨fun _ => nofun, fun _ => trivial⟩
  | cons s ss ih => rw [Stmt.AllAsk, ih, List.forall_mem_cons]

theorem Arm.allAsk_iff {arms : List Arm} :
    Arm.AllAsk allowed arms ↔ ∀ arm ∈ arms, arm.Asks allowed := by
  induction arms with
  | nil => exact ⟨fun _ => nofun, fun _ => trivial⟩
  | cons arm arms ih => rw [Arm.AllAsk, ih, List.forall_mem_cons]

theorem Block.asks_iff {b : Block} : b.Asks allowed ↔ ∀ s ∈ b.statements, s.Asks allowed := by
  obtain ⟨guard, statements, l⟩ := b
  exact Stmt.allAsk_iff

end Lists

/-! ## Parts -/

section Parts

variable (allowed : Licence)

def Expr.Own : Expr → Prop
  | .unary op _ _ => op.isBinary = true → allowed.MayLack op
  | .call _ args _ => (∀ s : Step, s.serves = true → allowed s) ∧ ∀ e ∈ args, e.AsksBack allowed
  | .assign _ target _ _ => target.AsksWrite allowed
  | _ => True

def Stmt.Own : Stmt → Prop
  | .forIn name _ _ _ => Binds allowed name
  | .delete array [] _ => allowed (.remove array)
  | .delete array _ _ => BindsArrays allowed array
  | _ => True

variable {allowed}

theorem Expr.Asks.own {e : Expr} (h : e.Asks allowed) : e.Own allowed := by
  cases e with
  | unary | assign => exact h.1
  | call name args l => exact ⟨h.1, fun e mem => (Expr.allAsk_iff.mp h.2 e mem).1⟩
  | _ => trivial

private theorem Expr.Asks.children {e : Expr} (h : e.Asks allowed) :
    ∀ c ∈ e.children, c.Asks allowed := by
  cases e with
  | const | pattern | var => exact nofun
  | elem name index l => exact List.forall_mem_singleton.mpr h
  | unary op e l => exact List.forall_mem_singleton.mpr h.2
  | binary op a b l =>
    exact List.forall_mem_cons.mpr ⟨h.1, List.forall_mem_singleton.mpr h.2⟩
  | ternary c a b l =>
    refine List.forall_mem_cons.mpr ⟨h.1, List.forall_mem_cons.mpr ⟨h.2.1, ?_⟩⟩
    exact List.forall_mem_singleton.mpr h.2.2
  | call name args l => exact fun e mem => (Expr.allAsk_iff.mp h.2 e mem).2
  | assign form target value l =>
    exact List.forall_mem_cons.mpr ⟨h.2.1, List.forall_mem_singleton.mpr h.2.2⟩

theorem Expr.Asks.parts {e : Expr} (h : e.Asks allowed) : ∀ c ∈ e.parts, c.Asks allowed := by
  cases e with
  | assign form target value l => exact List.forall_mem_cons.mpr ⟨h.2.2, h.2.1.children⟩
  | _ => exact h.children

theorem Stmt.Asks.own {s : Stmt} (h : s.Asks allowed) : s.Own allowed := by
  cases s with
  | forIn => exact h.1
  | delete array indices l =>
    cases indices with
    | nil => exact h
    | cons => exact h.1
  | _ => trivial

theorem Stmt.Asks.exprs {s : Stmt} (h : s.Asks allowed) : ∀ e ∈ s.exprs, e.Asks allowed := by
  intro e mem
  cases s with
  | expr => exact List.mem_singleton.mp mem ▸ h
  | choice arms l =>
    obtain ⟨⟨condition, body⟩, arm, inside⟩ := List.mem_flatMap.mp mem
    exact (Arm.allAsk_iff.mp h _ arm).1 e (Option.mem_toList.mp inside)
  | «while» => exact List.mem_singleton.mp mem ▸ h.1
  | doWhile => exact List.mem_singleton.mp mem ▸ h.2
  | «for» init c update body l =>
    rcases List.mem_append.mp mem with first | inUpdate
    · rcases List.mem_append.mp first with inInit | inCondition
      · exact h.1 e (Option.mem_toList.mp inInit)
      · exact h.2.1 e (Option.mem_toList.mp inCondition)
    · exact h.2.2.1 e (Option.mem_toList.mp inUpdate)
  | «return» value l => exact h e (Option.mem_toList.mp mem)
  | delete array indices l =>
    cases indices with
    | nil => cases mem
    | cons => exact h.2 e mem
  | forIn | «break» | «continue» => cases mem

theorem Stmt.Asks.stmts {s : Stmt} (h : s.Asks allowed) : ∀ t ∈ s.stmts, t.Asks allowed := by
  cases s with
  | choice arms l =>
    intro t mem
    obtain ⟨⟨condition, body⟩, arm, inside⟩ := List.mem_flatMap.mp mem
    exact Block.asks_iff.mp (Arm.allAsk_iff.mp h _ arm).2 t inside
  | «while» => exact Block.asks_iff.mp h.2
  | doWhile => exact Block.asks_iff.mp h.1
  | «for» => exact Block.asks_iff.mp h.2.2.2
  | forIn => exact Block.asks_iff.mp h.2
  | _ => exact nofun

theorem Program.Asks.statements {p : Program} (h : p.Asks allowed) :
    ∀ s ∈ p.statements, s.Asks allowed := by
  intro s mem
  simp only [Program.statements, List.mem_append, List.mem_flatMap] at mem
  rcases mem with ((⟨f, inside, mem⟩ | ⟨b, inside, mem⟩) | ⟨b, inside, mem⟩) | ⟨r, inside, mem⟩
  · exact Stmt.allAsk_iff.mp (h.functions f inside) s mem
  · exact Block.asks_iff.mp (h.begins b inside) s mem
  · exact Block.asks_iff.mp (h.ends b inside) s mem
  · exact Stmt.allAsk_iff.mp (h.rules r inside) s mem

end Parts

/-! ## Licences that allow for any text -/

section Open

variable {allowed : Licence}

private theorem Expr.asksWrite_of_open (all : allowed.Open) (e : Expr) : e.AsksWrite allowed := by
  unfold Expr.AsksWrite
  split
  · exact all.assigns _
  · exact fun _ => all.steps _ rfl
  · exact fun _ _ field => all.steps _ field
  · exact fun _ _ field => all.steps _ field
  · trivial

private theorem Expr.asksBack_of_open (all : allowed.Open) (e : Expr) : e.AsksBack allowed := by
  unfold Expr.AsksBack
  split
  · exact fun _ => all.steps _ rfl
  · trivial

mutual

theorem Expr.asks_of_open (all : allowed.Open) : ∀ e : Expr, e.Asks allowed
  | .const _ | .pattern _ | .var _ _ => trivial
  | .elem _ index _ => index.asks_of_open all
  | .unary _ e _ => ⟨fun _ => all.lacks _, e.asks_of_open all⟩
  | .binary _ a b _ => ⟨a.asks_of_open all, b.asks_of_open all⟩
  | .ternary c a b _ => ⟨c.asks_of_open all, a.asks_of_open all, b.asks_of_open all⟩
  | .call _ args _ =>
    ⟨fun s served => all.steps s (Step.isCommon_of_serves served), Expr.allAsk_of_open all args⟩
  | .assign _ target value _ =>
    ⟨target.asksWrite_of_open all, target.asks_of_open all, value.asks_of_open all⟩

theorem Expr.allAsk_of_open (all : allowed.Open) : ∀ es : List Expr, Expr.AllAsk allowed es
  | [] => trivial
  | e :: es => ⟨⟨e.asksBack_of_open all, e.asks_of_open all⟩, Expr.allAsk_of_open all es⟩

end

private theorem Stmt.asks_of_open (all : allowed.Open) (s : Stmt)
    (own : ∀ t ∈ s.within, t.Own allowed) :
    s.Asks allowed := by
  have inside : ∀ t ∈ s.stmts, t.Asks allowed := fun t mem =>
    t.asks_of_open all fun u deep => own u (within_subset_of_mem_stmts mem deep)
  have here := own s s.self_mem_within
  have exprs {es : Option Expr} : ∀ e ∈ es, e.Asks allowed := fun e _ => e.asks_of_open all
  cases s with
  | expr e => exact e.asks_of_open all
  | choice arms l =>
    rw [Stmt.Asks, Arm.allAsk_iff]
    rintro ⟨condition, body⟩ arm
    refine ⟨exprs, Block.asks_iff.mpr fun t mem => ?_⟩
    exact inside t (List.mem_flatMap.mpr ⟨_, arm, mem⟩)
  | «while» c body l => exact ⟨c.asks_of_open all, Block.asks_iff.mpr inside⟩
  | doWhile body c l => exact ⟨Block.asks_iff.mpr inside, c.asks_of_open all⟩
  | «for» init c update body l => exact ⟨exprs, exprs, exprs, Block.asks_iff.mpr inside⟩
  | forIn name array body l => exact ⟨here, Block.asks_iff.mpr inside⟩
  | «return» value l => exact exprs
  | «break» | «continue» => trivial
  | delete array indices l =>
    cases indices with
    | nil => exact here
    | cons => exact ⟨here, fun e _ => e.asks_of_open all⟩
termination_by sizeOf s
decreasing_by exact sizeOf_lt_of_mem_stmts mem

/-- Whatever a script asks for is allowed if it may bind the variables of its loops and unbind the
names that it deletes. -/
theorem Program.asks_of_open (all : allowed.Open) (p : Program)
    (vars : ∀ name ∈ p.loopVariables, Binds allowed name)
    (removes : ∀ name ∈ p.deletedNames, allowed (.remove name)) : p.Asks allowed := by
  have stmts {s : Stmt} (mem : s ∈ p.statements) : s.Asks allowed := by
    refine s.asks_of_open all fun t inside => ?_
    cases t with
    | forIn name => exact vars name (p.mem_loopVariables mem inside rfl)
    | delete name indices l =>
      cases indices with
      | nil => exact removes name (p.mem_deletedNames mem inside rfl)
      | cons => exact fun _ => all.steps _ rfl
    | _ => trivial
  refine ⟨fun f mem => ?_, fun b mem => ?_, fun b mem => ?_, fun _ _ e _ => e.asks_of_open all,
    fun r mem => ?_⟩
  · exact Stmt.allAsk_iff.mpr fun s inside => stmts (p.mem_statements_of_function mem inside)
  · exact Block.asks_iff.mpr fun s inside => stmts (p.mem_statements_of_begin mem inside)
  · exact Block.asks_iff.mpr fun s inside => stmts (p.mem_statements_of_end mem inside)
  · exact Stmt.allAsk_iff.mpr fun s inside => stmts (p.mem_statements_of_rule mem inside)

theorem Stmt.asks_of_full (full : allowed.Full) (s : Stmt) : s.Asks allowed := by
  refine s.asks_of_open full.toOpen fun t _ => ?_
  cases t with
  | forIn name => exact full.stores name
  | delete name indices l =>
    cases indices with
    | nil => exact full.removes name
    | cons => exact fun table => full.stores name (.array table)
  | _ => trivial

theorem Program.asks_of_full (full : allowed.Full) (p : Program) : p.Asks allowed :=
  p.asks_of_open full.toOpen (fun name _ => full.stores name) fun name _ => full.removes name

end Open

end PatternAction
