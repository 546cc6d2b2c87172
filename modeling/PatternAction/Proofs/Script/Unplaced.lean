import PatternAction.RunFault
import PatternAction.Script.Render

/-!
Scripts and faults without their places.  Two scripts are the same up to places if they are equal
once all places are forgotten.  What a tree looks like does not depend on its places: forgetting
them changes neither the text of an expression nor whether it has a place.
-/

set_option autoImplicit false
set_option relaxedAutoImplicit false

namespace PatternAction

/-! ## Expressions -/

mutual

def Expr.unplaced : Expr → Expr
  | .const text => .const text
  | .pattern text => .pattern text
  | .var name _ => .var name .unknown
  | .elem name index _ => .elem name index.unplaced .unknown
  | .unary op e _ => .unary op e.unplaced .unknown
  | .binary op a b _ => .binary op a.unplaced b.unplaced .unknown
  | .ternary c a b _ => .ternary c.unplaced a.unplaced b.unplaced .unknown
  | .call name args _ => .call name (Expr.unplacedList args) .unknown
  | .assign form target value _ => .assign form target.unplaced value.unplaced .unknown

def Expr.unplacedList : List Expr → List Expr
  | [] => []
  | e :: es => e.unplaced :: Expr.unplacedList es

end

theorem Expr.unplacedList_eq_map (es : List Expr) :
    Expr.unplacedList es = es.map Expr.unplaced := by
  induction es with
  | nil => rfl
  | cons e es ih => rw [Expr.unplacedList, ih, List.map_cons]

mutual

theorem Expr.render_unplaced : ∀ e : Expr, e.unplaced.render = e.render
  | .const _ | .pattern _ | .var _ _ => rfl
  | .elem _ index _ => by simp only [unplaced, render, index.render_unplaced]
  | .unary _ e _ => by simp only [unplaced, render, e.render_unplaced]
  | .binary _ a b _ => by simp only [unplaced, render, a.render_unplaced, b.render_unplaced]
  | .ternary c a b _ => by
    simp only [unplaced, render, c.render_unplaced, a.render_unplaced, b.render_unplaced]
  | .call _ args _ => by simp only [unplaced, render, Expr.renderList_unplaced args]
  | .assign form target value _ => by
    cases form <;> simp only [unplaced, render, target.render_unplaced, value.render_unplaced]

theorem Expr.renderList_unplaced : ∀ es : List Expr,
    Expr.renderList (Expr.unplacedList es) = Expr.renderList es
  | [] => rfl
  | [e] => by simp only [unplacedList, renderList, e.render_unplaced]
  | e :: e' :: es => by
    have rest := Expr.renderList_unplaced (e' :: es)
    simp only [unplacedList, renderList, e.render_unplaced] at rest ⊢
    rw [rest]

end

theorem Expr.location?_unplaced (e : Expr) :
    e.unplaced.location? = e.location?.map fun _ => .unknown := by
  cases e <;> rfl

/-! ## Scripts -/

mutual

def Stmt.unplaced : Stmt → Stmt
  | .expr e => .expr e.unplaced
  | .choice arms _ => .choice (Arm.unplacedList arms) .unknown
  | .while c body _ => .while c.unplaced body.unplaced .unknown
  | .doWhile body c _ => .doWhile body.unplaced c.unplaced .unknown
  | .for init c update body _ =>
    .for (init.map Expr.unplaced) (c.map Expr.unplaced) (update.map Expr.unplaced) body.unplaced
      .unknown
  | .forIn name array body _ => .forIn name array body.unplaced .unknown
  | .return value _ => .return (value.map Expr.unplaced) .unknown
  | .break _ => .break .unknown
  | .continue _ => .continue .unknown
  | .delete array indices _ => .delete array (indices.map Expr.unplaced) .unknown

def Block.unplaced : Block → Block
  | .mk guard statements _ =>
    .mk (guard.map Expr.unplaced) (Stmt.unplacedList statements) .unknown

def Arm.unplaced : Arm → Arm
  | .mk condition body => .mk (condition.map Expr.unplaced) body.unplaced

def Stmt.unplacedList : List Stmt → List Stmt
  | [] => []
  | s :: ss => s.unplaced :: Stmt.unplacedList ss

def Arm.unplacedList : List Arm → List Arm
  | [] => []
  | arm :: arms => arm.unplaced :: Arm.unplacedList arms

end

theorem Stmt.unplacedList_eq_map (ss : List Stmt) :
    Stmt.unplacedList ss = ss.map Stmt.unplaced := by
  induction ss with
  | nil => rfl
  | cons s ss ih => rw [Stmt.unplacedList, ih, List.map_cons]

theorem Arm.unplacedList_eq_map (arms : List Arm) :
    Arm.unplacedList arms = arms.map Arm.unplaced := by
  induction arms with
  | nil => rfl
  | cons arm arms ih => rw [Arm.unplacedList, ih, List.map_cons]

theorem Block.statements_unplaced (b : Block) :
    b.unplaced.statements = b.statements.map Stmt.unplaced := by
  obtain ⟨guard, statements, l⟩ := b
  exact Stmt.unplacedList_eq_map statements

theorem Block.guard_unplaced (b : Block) : b.unplaced.guard = b.guard.map Expr.unplaced := by
  cases b
  rfl

def Function.unplaced (f : Function) : Function :=
  ⟨f.name, f.params, f.body.map Stmt.unplaced, .unknown⟩

/-- The script with all places forgotten. -/
def Program.unplaced (p : Program) : Program :=
  ⟨p.functions.map Function.unplaced, p.begins.map Block.unplaced, p.ends.map Block.unplaced,
    p.rules.map Block.unplaced⟩

theorem Program.function?_unplaced (p : Program) (name : String) :
    p.unplaced.function? name = (p.function? name).map Function.unplaced := by
  rw [function?, unplaced, ← List.map_reverse, List.find?_map]
  rfl

/-! ## Faults -/

def RunFault.unplaced : RunFault → RunFault
  | .failure cause location => .failure cause (location.map fun _ => .unknown)
  | .pattern fault => .pattern fault

def RunHalt.unplaced : RunHalt → RunHalt
  | .fault f => .fault f.unplaced
  | .aborted => .aborted
  | .outOfFuel => .outOfFuel

end PatternAction
