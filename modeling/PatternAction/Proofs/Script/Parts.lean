import PatternAction.Builtin
import PatternAction.Script

/-!
The parts of scripts.  What a statement or an expression does depends on what its direct parts do,
and, if it is a call, on what the body of the function does.  Everything inside a statement is
reached by going from parts to parts, so a property of what a script contains can be stated over
flat lists: which variables its loops bind, whether it repeats anything, which functions it calls.
-/

set_option autoImplicit false
set_option relaxedAutoImplicit false

namespace PatternAction

/-! ## Direct parts -/

namespace Expr

def children : Expr → List Expr
  | .const _ | .pattern _ | .var _ _ => []
  | .elem _ index _ => [index]
  | .unary _ e _ => [e]
  | .binary _ a b _ => [a, b]
  | .ternary c a b _ => [c, a, b]
  | .call _ args _ => args
  | .assign _ target value _ => [target, value]

/-- The expressions whose values an expression may ask for.  The target of an assignment is not
evaluated itself. -/
def parts : Expr → List Expr
  | .assign _ target value _ => value :: target.children
  | e => e.children

def callee? : Expr → Option String
  | .call name _ _ => some name
  | _ => none

end Expr

namespace Stmt

/-- The expressions of a statement, apart from those of the statements in it. -/
def exprs : Stmt → List Expr
  | .expr e => [e]
  | .choice arms _ => arms.flatMap (·.condition.toList)
  | .while c _ _ | .doWhile _ c _ => [c]
  | .for init c update _ _ => init.toList ++ c.toList ++ update.toList
  | .return value _ => value.toList
  | .delete _ indices _ => indices
  | .forIn _ _ _ _ | .break _ | .continue _ => []

/-- The statements that stand directly in a statement. -/
def stmts : Stmt → List Stmt
  | .choice arms _ => arms.flatMap (·.body.statements)
  | .while _ body _ | .doWhile body _ _ | .for _ _ _ body _ | .forIn _ _ body _ => body.statements
  | _ => []

/-- Whether a statement may be repeated as often as a test succeeds. -/
def isLoop : Stmt → Bool
  | .while _ _ _ | .doWhile _ _ _ | .for _ _ _ _ _ => true
  | _ => false

/-- The variable that a loop over an array binds. -/
def loopVariable? : Stmt → Option String
  | .forIn name _ _ _ => some name
  | _ => none

def deleted? : Stmt → Option String
  | .delete name [] _ => some name
  | _ => none

end Stmt

/-- The statements that a call of a name runs; a function that needs no definition runs none. -/
def Program.bodyOf (p : Program) (name : String) : List Stmt :=
  match Builtin.ofName? name, p.function? name with
  | none, some f => f.body
  | _, _ => []

theorem Program.exists_of_mem_bodyOf {p : Program} {name : String} {s : Stmt}
    (h : s ∈ p.bodyOf name) : ∃ f ∈ p.functions, f.name = name ∧ s ∈ f.body := by
  unfold bodyOf at h
  split at h
  · rename_i f _ found
    have mem : f ∈ p.functions := List.mem_reverse.mp (List.mem_of_find?_eq_some found)
    have named : (f.name == name) = true := by simpa using List.find?_some found
    exact ⟨f, mem, beq_iff_eq.mp named, h⟩
  · cases h

def Program.bodyAt (p : Program) (e : Expr) : List Stmt :=
  e.callee?.elim [] p.bodyOf

theorem Program.exists_of_mem_bodyAt {p : Program} {e : Expr} {s : Stmt} (h : s ∈ p.bodyAt e) :
    ∃ name ∈ e.callee?, s ∈ p.bodyOf name := by
  cases e with
  | call name args l => exact ⟨name, rfl, h⟩
  | _ => cases h

/-! ## Sizes -/

private theorem Expr.sizeOf_lt_of_mem_children {e e' : Expr} (h : e' ∈ e.children) :
    sizeOf e' < sizeOf e := by
  cases e with
  | const | pattern | var => cases h
  | elem | unary | binary | ternary | assign =>
    simp only [children, List.mem_cons, List.not_mem_nil, or_false] at h
    simp +arith only [Expr.elem.sizeOf_spec, Expr.unary.sizeOf_spec, Expr.binary.sizeOf_spec,
      Expr.ternary.sizeOf_spec, Expr.assign.sizeOf_spec]
    grind
  | call name args l =>
    have inside : sizeOf e' < sizeOf args := List.sizeOf_lt_of_mem h
    simp only [Expr.call.sizeOf_spec]
    omega

theorem Expr.sizeOf_lt_of_mem_parts {e e' : Expr} (h : e' ∈ e.parts) : sizeOf e' < sizeOf e := by
  cases e with
  | assign form target value l =>
    rcases List.mem_cons.mp h with rfl | inside
    · exact sizeOf_lt_of_mem_children (List.mem_cons_of_mem _ (List.mem_singleton_self _))
    · have child := sizeOf_lt_of_mem_children inside
      have whole : sizeOf target < sizeOf (Expr.assign form target value l) :=
        sizeOf_lt_of_mem_children List.mem_cons_self
      omega
  | _ => exact sizeOf_lt_of_mem_children h

private theorem Block.sizeOf_lt_of_mem {b : Block} {s : Stmt} (h : s ∈ b.statements) :
    sizeOf s < sizeOf b := by
  obtain ⟨guard, statements, l⟩ := b
  have inside : sizeOf s < sizeOf statements := List.sizeOf_lt_of_mem h
  simp only [Block.mk.sizeOf_spec]
  omega

theorem Stmt.sizeOf_lt_of_mem_stmts {s t : Stmt} (h : t ∈ s.stmts) : sizeOf t < sizeOf s := by
  cases s with
  | choice arms l =>
    obtain ⟨⟨condition, body⟩, mem, inside⟩ := List.mem_flatMap.mp h
    have arm := List.sizeOf_lt_of_mem mem
    have block : sizeOf t < sizeOf body := Block.sizeOf_lt_of_mem inside
    simp only [Arm.mk.sizeOf_spec] at arm
    simp only [Stmt.choice.sizeOf_spec]
    omega
  | «while» c body l =>
    have block : sizeOf t < sizeOf body := Block.sizeOf_lt_of_mem h
    simp only [Stmt.while.sizeOf_spec]
    omega
  | doWhile body c l =>
    have block : sizeOf t < sizeOf body := Block.sizeOf_lt_of_mem h
    simp only [Stmt.doWhile.sizeOf_spec]
    omega
  | «for» init c update body l =>
    have block : sizeOf t < sizeOf body := Block.sizeOf_lt_of_mem h
    simp only [Stmt.for.sizeOf_spec]
    omega
  | forIn name array body l =>
    have block : sizeOf t < sizeOf body := Block.sizeOf_lt_of_mem h
    simp only [Stmt.forIn.sizeOf_spec]
    omega
  | _ => cases h

/-! ## Everything inside -/

mutual

/-- An expression and all that stand in it. -/
def Expr.within : Expr → List Expr
  | .const text => [.const text]
  | .pattern text => [.pattern text]
  | .var name l => [.var name l]
  | .elem name index l => .elem name index l :: index.within
  | .unary op e l => .unary op e l :: e.within
  | .binary op a b l => .binary op a b l :: (a.within ++ b.within)
  | .ternary c a b l => .ternary c a b l :: (c.within ++ a.within ++ b.within)
  | .call name args l => .call name args l :: Expr.withinList args
  | .assign form target value l => .assign form target value l :: (target.within ++ value.within)

def Expr.withinList : List Expr → List Expr
  | [] => []
  | e :: es => e.within ++ Expr.withinList es

end

private theorem Expr.mem_withinList {e : Expr} {es : List Expr} :
    e ∈ Expr.withinList es ↔ ∃ e' ∈ es, e ∈ e'.within := by
  induction es with
  | nil => simp [withinList]
  | cons e' es ih => simp [withinList, ih]

private theorem Expr.mem_within {e e' : Expr} :
    e' ∈ e.within ↔ e' = e ∨ ∃ c ∈ e.children, e' ∈ c.within := by
  cases e with
  | call name args l => rw [within, List.mem_cons, mem_withinList, children]
  | _ => simp [within, children]

theorem Expr.self_mem_within (e : Expr) : e ∈ e.within :=
  mem_within.mpr (.inl rfl)

private theorem Expr.within_subset_of_mem_children {e c : Expr} (h : c ∈ e.children) :
    c.within ⊆ e.within :=
  fun _ mem => mem_within.mpr (.inr ⟨c, h, mem⟩)

theorem Expr.within_subset_of_mem_parts {e c : Expr} (h : c ∈ e.parts) : c.within ⊆ e.within := by
  cases e with
  | assign form target value l =>
    rcases List.mem_cons.mp h with rfl | inside
    · exact within_subset_of_mem_children (List.mem_cons_of_mem _ (List.mem_singleton_self _))
    · have whole : target.within ⊆ (Expr.assign form target value l).within :=
        within_subset_of_mem_children List.mem_cons_self
      exact fun _ mem => whole (within_subset_of_mem_children inside mem)
  | _ => exact within_subset_of_mem_children h

mutual

/-- A statement and all that stand in it. -/
def Stmt.within : Stmt → List Stmt
  | .expr e => [.expr e]
  | .choice arms l => .choice arms l :: Arm.withinList arms
  | .while c body l => .while c body l :: body.within
  | .doWhile body c l => .doWhile body c l :: body.within
  | .for init c update body l => .for init c update body l :: body.within
  | .forIn name array body l => .forIn name array body l :: body.within
  | .return value l => [.return value l]
  | .break l => [.break l]
  | .continue l => [.continue l]
  | .delete array indices l => [.delete array indices l]

def Block.within : Block → List Stmt
  | .mk _ statements _ => Stmt.withinList statements

def Arm.within : Arm → List Stmt
  | .mk _ body => body.within

def Stmt.withinList : List Stmt → List Stmt
  | [] => []
  | s :: ss => s.within ++ Stmt.withinList ss

def Arm.withinList : List Arm → List Stmt
  | [] => []
  | arm :: arms => arm.within ++ Arm.withinList arms

end

private theorem Stmt.mem_withinList {s : Stmt} {ss : List Stmt} :
    s ∈ Stmt.withinList ss ↔ ∃ s' ∈ ss, s ∈ s'.within := by
  induction ss with
  | nil => simp [withinList]
  | cons s' ss ih => simp [withinList, ih]

private theorem Block.mem_within {b : Block} {s : Stmt} :
    s ∈ b.within ↔ ∃ s' ∈ b.statements, s ∈ s'.within := by
  obtain ⟨guard, statements, l⟩ := b
  exact Stmt.mem_withinList

private theorem Arm.mem_withinList {s : Stmt} {arms : List Arm} :
    s ∈ Arm.withinList arms ↔ ∃ s' ∈ arms.flatMap (·.body.statements), s ∈ s'.within := by
  induction arms with
  | nil => simp [withinList]
  | cons arm arms ih =>
    obtain ⟨condition, body⟩ := arm
    rw [withinList, List.mem_append, ih, List.flatMap_cons, within, Block.mem_within]
    simp only [List.mem_append, or_and_right, exists_or, Arm.body]

private theorem Stmt.mem_within {s t : Stmt} :
    t ∈ s.within ↔ t = s ∨ ∃ u ∈ s.stmts, t ∈ u.within := by
  cases s with
  | choice arms l => rw [within, List.mem_cons, Arm.mem_withinList, stmts]
  | «while» | doWhile | «for» | forIn => rw [within, List.mem_cons, Block.mem_within, stmts]
  | _ => simp [within, stmts]

theorem Stmt.self_mem_within (s : Stmt) : s ∈ s.within :=
  mem_within.mpr (.inl rfl)

theorem Stmt.within_subset_of_mem_stmts {s u : Stmt} (h : u ∈ s.stmts) : u.within ⊆ s.within :=
  fun _ mem => mem_within.mpr (.inr ⟨u, h, mem⟩)

/-! ## Whole scripts -/

/-- The statements of a script that do not stand in others. -/
def Program.statements (p : Program) : List Stmt :=
  p.functions.flatMap (·.body) ++ p.begins.flatMap (·.statements) ++
    p.ends.flatMap (·.statements) ++ p.rules.flatMap (·.statements)

namespace Program

variable (p : Program) {s : Stmt}

theorem mem_statements_of_function {f : Function} (mem : f ∈ p.functions) (inside : s ∈ f.body) :
    s ∈ p.statements := by
  have body : s ∈ p.functions.flatMap (·.body) := List.mem_flatMap.mpr ⟨f, mem, inside⟩
  simp only [statements, List.mem_append, body, true_or]

theorem mem_statements_of_begin {b : Block} (mem : b ∈ p.begins) (inside : s ∈ b.statements) :
    s ∈ p.statements := by
  have body : s ∈ p.begins.flatMap (·.statements) := List.mem_flatMap.mpr ⟨b, mem, inside⟩
  simp only [statements, List.mem_append, body, or_true, true_or]

theorem mem_statements_of_end {b : Block} (mem : b ∈ p.ends) (inside : s ∈ b.statements) :
    s ∈ p.statements := by
  have body : s ∈ p.ends.flatMap (·.statements) := List.mem_flatMap.mpr ⟨b, mem, inside⟩
  simp only [statements, List.mem_append, body, or_true, true_or]

theorem mem_statements_of_rule {r : Rule} (mem : r ∈ p.rules) (inside : s ∈ r.statements) :
    s ∈ p.statements := by
  have body : s ∈ p.rules.flatMap (·.statements) := List.mem_flatMap.mpr ⟨r, mem, inside⟩
  simp only [statements, List.mem_append, body, or_true]

end Program

/-- The variables that the loops over arrays in a script bind. -/
def Program.loopVariables (p : Program) : List String :=
  p.statements.flatMap fun s => s.within.filterMap Stmt.loopVariable?

/-- The names that the script deletes as a whole. -/
def Program.deletedNames (p : Program) : List String :=
  p.statements.flatMap fun s => s.within.filterMap Stmt.deleted?

section Names

variable (p : Program) {s t : Stmt} {name : String} (mem : s ∈ p.statements) (inside : t ∈ s.within)
include mem inside

theorem Program.mem_loopVariables (h : t.loopVariable? = some name) : name ∈ p.loopVariables :=
  List.mem_flatMap.mpr ⟨s, mem, List.mem_filterMap.mpr ⟨t, inside, h⟩⟩

theorem Program.mem_deletedNames (h : t.deleted? = some name) : name ∈ p.deletedNames :=
  List.mem_flatMap.mpr ⟨s, mem, List.mem_filterMap.mpr ⟨t, inside, h⟩⟩

end Names

/-- Nothing in the script is repeated as often as a test succeeds. -/
def Program.loopFree (p : Program) : Bool :=
  p.statements.all fun s => s.within.all fun t => !t.isLoop

def Expr.callees (e : Expr) : List String :=
  e.within.filterMap Expr.callee?

/-- The names that are called in a statement. -/
def Stmt.callees (s : Stmt) : List String :=
  s.within.flatMap fun t => t.exprs.flatMap Expr.callees

theorem Expr.mem_callees_of_callee? {e : Expr} {name : String} (h : name ∈ e.callee?) :
    name ∈ e.callees :=
  List.mem_filterMap.mpr ⟨e, e.self_mem_within, h⟩

theorem Expr.callees_subset_of_mem_parts {e c : Expr} (h : c ∈ e.parts) :
    c.callees ⊆ e.callees := by
  intro name mem
  obtain ⟨call, inside, calls⟩ := List.mem_filterMap.mp mem
  exact List.mem_filterMap.mpr ⟨call, within_subset_of_mem_parts h inside, calls⟩

theorem Stmt.callees_subset_of_mem_exprs {s : Stmt} {e : Expr} (h : e ∈ s.exprs) :
    e.callees ⊆ s.callees :=
  fun _ mem => List.mem_flatMap.mpr ⟨s, s.self_mem_within, List.mem_flatMap.mpr ⟨e, h, mem⟩⟩

theorem Stmt.callees_subset_of_mem_stmts {s t : Stmt} (h : t ∈ s.stmts) :
    t.callees ⊆ s.callees := by
  intro name mem
  obtain ⟨u, inside, calls⟩ := List.mem_flatMap.mp mem
  exact List.mem_flatMap.mpr ⟨u, within_subset_of_mem_stmts h inside, calls⟩

/-- The body of a function calls a name. -/
def Program.Calls (p : Program) (caller callee : String) : Prop :=
  ∃ s ∈ p.bodyOf caller, callee ∈ s.callees

end PatternAction
