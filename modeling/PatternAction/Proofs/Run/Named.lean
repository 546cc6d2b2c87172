import PatternAction.Proofs.Record.Published
import PatternAction.Proofs.Run.Composed
import PatternAction.Proofs.Script.LockstepStmt
import PatternAction.Proofs.Token.Cut
import PatternAction.Script.Source

/-!
The names in a script that is read from a text.  They are words, and no word begins with the sign of
fields.  So such a script can write to a field by an assignment to `$` only: if it asks for no such
assignment, it asks for steps that leave the fields alone.
-/

set_option autoImplicit false
set_option relaxedAutoImplicit false

namespace PatternAction

open Text

/-! ## Words -/

namespace Token

private theorem WordText.head?_ne {cs : List Char} (h : WordText cs) : cs.head? ≠ some '$' := by
  cases h with
  | plain start =>
    intro sign
    obtain rfl := Option.some.inj sign
    revert start
    decide
  | glued number =>
    obtain ⟨c, tail, rfl, first⟩ := number.head
    intro sign
    obtain rfl := Option.some.inj sign
    cases first

end Token

theorem hasFieldSign_of_worded {source : String} {tokens : List Token}
    (lexed : Token.tokenize source = .ok tokens) {name : String}
    (h : Worded (· ∈ Cursor.complete tokens) name) : hasFieldSign name = false := by
  obtain ⟨t, mem, kind⟩ := h
  have inText := Cursor.mem_of_mem_complete mem (by simp [kind])
  rcases Token.spelled_of_tokenize lexed inText with eof | ⟨lexeme, spelled⟩
  · rw [kind] at eof
    cases eof
  · rw [kind] at spelled
    obtain ⟨rfl, word⟩ := spelled
    rw [hasFieldSign, beq_eq_false_iff_ne]
    exact word.head?_ne

theorem Program.built_of_ofSource {source : String} {p : Program} (read : ofSource source = .ok p) :
    ∃ tokens, Token.tokenize source = .ok tokens ∧ p.Built (· ∈ Cursor.complete tokens) := by
  unfold ofSource at read
  split at read
  · cases read
  · rename_i tokens lexed
    refine ⟨tokens, lexed, ?_⟩
    rcases ofTokens_alike (Eq.refl (tokens.map (·.kind))) with
      ⟨q, _, parsed, -, alike⟩ | ⟨f, _, refused, -⟩
    · simp only [parsed, Except.ok.injEq] at read
      exact read ▸ alike.holds
    · simp [refused] at read

/-! ## Assignments to fields -/

def Expr.isField : Expr → Bool
  | .unary .dollar _ _ => true
  | _ => false

mutual

/-- Whether a field is the target of an assignment in the expression, plain, by an operator or by
`++` or `--`. -/
def Expr.assignsField : Expr → Bool
  | .const _ | .pattern _ | .var _ _ => false
  | .elem _ index _ => index.assignsField
  | .unary _ e _ => e.assignsField
  | .binary _ a b _ => a.assignsField || b.assignsField
  | .ternary c a b _ => c.assignsField || a.assignsField || b.assignsField
  | .call _ args _ => Expr.anyAssignsField args
  | .assign _ target value _ => target.isField || target.assignsField || value.assignsField

def Expr.anyAssignsField : List Expr → Bool
  | [] => false
  | e :: es => e.assignsField || Expr.anyAssignsField es

end

private theorem Expr.anyAssignsField_eq_false {es : List Expr} :
    Expr.anyAssignsField es = false ↔ ∀ e ∈ es, e.assignsField = false := by
  induction es with
  | nil => exact ⟨fun _ => nofun, fun _ => rfl⟩
  | cons e es ih => rw [Expr.anyAssignsField, Bool.or_eq_false_iff, ih, List.forall_mem_cons]

mutual

/-- Whether a field is the target of an assignment in the statement. -/
def Stmt.assignsField : Stmt → Bool
  | .expr e => e.assignsField
  | .choice arms _ => Arm.anyAssignsField arms
  | .while c body _ => c.assignsField || body.assignsField
  | .doWhile body c _ => body.assignsField || c.assignsField
  | .for init c update body _ =>
    init.any Expr.assignsField || c.any Expr.assignsField || update.any Expr.assignsField ||
      body.assignsField
  | .forIn _ _ body _ => body.assignsField
  | .return value _ => value.any Expr.assignsField
  | .break _ | .continue _ => false
  | .delete _ indices _ => indices.any Expr.assignsField

def Block.assignsField : Block → Bool
  | .mk _ statements _ => Stmt.anyAssignsField statements

def Arm.assignsField : Arm → Bool
  | .mk condition body => condition.any Expr.assignsField || body.assignsField

def Stmt.anyAssignsField : List Stmt → Bool
  | [] => false
  | s :: ss => s.assignsField || Stmt.anyAssignsField ss

def Arm.anyAssignsField : List Arm → Bool
  | [] => false
  | arm :: arms => arm.assignsField || Arm.anyAssignsField arms

end

private theorem Stmt.anyAssignsField_eq_false {ss : List Stmt} :
    Stmt.anyAssignsField ss = false ↔ ∀ s ∈ ss, s.assignsField = false := by
  induction ss with
  | nil => exact ⟨fun _ => nofun, fun _ => rfl⟩
  | cons s ss ih => rw [Stmt.anyAssignsField, Bool.or_eq_false_iff, ih, List.forall_mem_cons]

private theorem Arm.anyAssignsField_eq_false {arms : List Arm} :
    Arm.anyAssignsField arms = false ↔ ∀ arm ∈ arms, arm.assignsField = false := by
  induction arms with
  | nil => exact ⟨fun _ => nofun, fun _ => rfl⟩
  | cons arm arms ih => rw [Arm.anyAssignsField, Bool.or_eq_false_iff, ih, List.forall_mem_cons]

private theorem Block.assignsField_eq_false {b : Block} :
    b.assignsField = false ↔ ∀ s ∈ b.statements, s.assignsField = false := by
  obtain ⟨guard, statements, l⟩ := b
  exact Stmt.anyAssignsField_eq_false

/-- Whether a field is the target of an assignment anywhere in the script. -/
def Program.assignsField (p : Program) : Bool :=
  p.functions.any (Stmt.anyAssignsField ·.body) || p.begins.any Block.assignsField ||
    p.ends.any Block.assignsField ||
    p.rules.any fun r => r.guard.any Expr.assignsField || Stmt.anyAssignsField r.statements

/-! ## Scripts that assign to no field -/

section Asks

variable {among : Token → Prop} {allowed : Licence}
variable (free : ∀ s : Step, s.serves = true → allowed s)
variable (names : ∀ name, Worded among name →
  Binds allowed name ∧ allowed.assign name ∧ allowed (.remove name))

theorem Operator.mayLack_of_single {op : Operator}
    (h : op ∈ [Operator.not, .unaryNeg, .unaryPos, .dollar] ∨
      op ∈ [Operator.preInc, .preDec, .postInc, .postDec]) (binary : op.isBinary = true) :
    allowed.MayLack op := by
  have signs : ∀ op ∈ [Operator.not, .unaryNeg, .unaryPos, .dollar], op.isBinary = false := by
    decide
  have steps : ∀ op ∈ [Operator.preInc, .preDec, .postInc, .postDec], op.isBinary = false := by
    decide
  rcases h with sign | step
  · rw [signs op sign] at binary
    cases binary
  · rw [steps op step] at binary
    cases binary

include names

private theorem Expr.Built.asksBack {e : Expr} (h : e.Built among) : e.AsksBack allowed := by
  cases h with
  | var hname => exact (names _ hname).1.arrays
  | _ => trivial

private theorem Expr.Built.asksWrite {e : Expr} (h : e.Built among) (other : e.isField = false) :
    e.AsksWrite allowed := by
  cases h with
  | var hname => exact (names _ hname).2.1
  | elem hname => exact (names _ hname).1.arrays
  | @unary op => cases op <;> trivial
  | @binary op => cases op <;> trivial
  | _ => trivial

include free

private theorem Expr.Built.asks {e : Expr} (h : e.Built among) (none : e.assignsField = false) :
    e.Asks allowed := by
  induction h with
  | const | pattern | var => trivial
  | elem _ _ _ ih => exact ih none
  | unary sign _ _ ih => exact ⟨Operator.mayLack_of_single (.inl sign), ih none⟩
  | binary _ _ _ _ iha ihb =>
    simp only [Expr.assignsField, Bool.or_eq_false_iff] at none
    exact ⟨iha none.1, ihb none.2⟩
  | ternary _ _ _ _ ihc iha ihb =>
    simp only [Expr.assignsField, Bool.or_eq_false_iff] at none
    exact ⟨ihc none.1.1, iha none.1.2, ihb none.2⟩
  | call _ args _ ih =>
    rw [Expr.assignsField, Expr.anyAssignsField_eq_false] at none
    rw [Expr.Asks, Expr.allAsk_iff]
    exact ⟨free, fun e mem => ⟨(args e mem).asksBack names, ih e mem (none e mem)⟩⟩
  | assign target _ _ iht ihv =>
    simp only [Expr.assignsField, Bool.or_eq_false_iff] at none
    exact ⟨target.asksWrite names none.1.1, iht none.1.2, ihv none.2⟩
  | compound _ target _ _ iht ihv =>
    simp only [Expr.assignsField, Bool.or_eq_false_iff] at none
    exact ⟨target.asksWrite names none.1.1, iht none.1.2, iht none.1.2, ihv none.2.2⟩
  | stepBy step operand _ ih =>
    simp only [Expr.stepBy, Expr.assignsField, Bool.or_eq_false_iff] at none
    exact ⟨operand.asksWrite names none.1.1, ih none.1.2,
      Operator.mayLack_of_single (.inr step), ih none.1.2⟩

private theorem Expr.Built.asks_maybe {e? : Option Expr} (h : ∀ e ∈ e?, e.Built among)
    (none : e?.any Expr.assignsField = false) : ∀ e ∈ e?, e.Asks allowed :=
  fun e mem => (h e mem).asks free names ((Option.any_eq_false _ _).mp none e mem)

private theorem Stmt.Built.asks {s : Stmt} (h : s.Built among) (none : s.assignsField = false) :
    s.Asks allowed := by
  induction h with
  | expr he => exact he.asks free names none
  | @choice guarded otherwise l _ conditions _ _ _ ih =>
    simp only [Stmt.assignsField, Arm.anyAssignsField_eq_false, Arm.forall_mem_all,
      Arm.assignsField, Bool.or_eq_false_iff, Block.assignsField_eq_false] at none
    rw [Stmt.Asks, Arm.allAsk_iff, Arm.forall_mem_all]
    refine ⟨fun g mem => ⟨?_, Block.asks_iff.mpr fun s inside => ?_⟩,
      fun b mem => ⟨fun e absent => absurd absent (Option.not_mem_none e),
        Block.asks_iff.mpr fun s inside => ?_⟩⟩
    · refine Expr.Built.asks_maybe free names (fun e same => ?_) (none.1 g mem).1
      exact Option.some.inj same ▸ conditions g mem
    · have block := List.mem_append_left otherwise.toList (List.mem_map_of_mem (f := Prod.snd) mem)
      exact ih _ block s inside ((none.1 g mem).2 s inside)
    · have block := List.mem_append_right (guarded.map Prod.snd) mem
      exact ih b block s inside ((none.2 b mem).2 s inside)
  | «while» hc _ _ _ ih =>
    simp only [Stmt.assignsField, Bool.or_eq_false_iff, Block.assignsField_eq_false] at none
    exact ⟨hc.asks free names none.1, Block.asks_iff.mpr fun s mem => ih s mem (none.2 s mem)⟩
  | doWhile _ _ hc _ ih =>
    simp only [Stmt.assignsField, Bool.or_eq_false_iff, Block.assignsField_eq_false] at none
    exact ⟨Block.asks_iff.mpr fun s mem => ih s mem (none.1 s mem), hc.asks free names none.2⟩
  | «for» hinit hc hupdate _ _ _ ih =>
    simp only [Stmt.assignsField, Bool.or_eq_false_iff, Block.assignsField_eq_false] at none
    obtain ⟨⟨⟨init, condition⟩, update⟩, body⟩ := none
    have maybe {e? : Option Expr} (he : ∀ e ∈ e?, e.Built among) :=
      Expr.Built.asks_maybe free names he
    exact ⟨maybe hinit init, maybe hc condition, maybe hupdate update,
      Block.asks_iff.mpr fun s mem => ih s mem (body s mem)⟩
  | forIn hname _ _ _ _ ih =>
    rw [Stmt.assignsField, Block.assignsField_eq_false] at none
    exact ⟨(names _ hname).1, Block.asks_iff.mpr fun s mem => ih s mem (none s mem)⟩
  | «return» hvalue => exact Expr.Built.asks_maybe free names hvalue none
  | «break» | «continue» => trivial
  | @delete _ indices _ harray hindices _ =>
    simp only [Stmt.assignsField, List.any_eq_false, Bool.not_eq_true] at none
    obtain ⟨binds, -, remove⟩ := names _ harray
    cases indices with
    | nil => exact remove
    | cons => exact ⟨binds.arrays, fun e mem => (hindices e mem).asks free names (none e mem)⟩

/-- A script that is built from words, and assigns to no field, asks for nothing but to bind and
unbind its words. -/
theorem Program.Built.asks {p : Program} (h : p.Built among) (none : p.assignsField = false) :
    p.Asks allowed := by
  simp only [Program.assignsField, Bool.or_eq_false_iff, List.any_eq_false, Bool.not_eq_true,
    Block.assignsField_eq_false, Stmt.anyAssignsField_eq_false] at none
  obtain ⟨⟨⟨functions, begins⟩, ends⟩, rules⟩ := none
  have body {ss : List Stmt} (hs : ∀ s ∈ ss, s.Built among)
      (none : ∀ s ∈ ss, s.assignsField = false) (s : Stmt) (mem : s ∈ ss) : s.Asks allowed :=
    (hs s mem).asks free names (none s mem)
  refine ⟨fun f mem => ?_, fun b mem => ?_, fun b mem => ?_, fun r mem => ?_, fun r mem => ?_⟩
  · exact Stmt.allAsk_iff.mpr (body (h.functions f mem).body (functions f mem))
  · exact Block.asks_iff.mpr (body (h.begins b mem).statements (begins b mem))
  · exact Block.asks_iff.mpr (body (h.ends b mem).statements (ends b mem))
  · exact Expr.Built.asks_maybe free names (h.rules r mem).guard (rules r mem).1
  · exact Stmt.allAsk_iff.mpr (body (h.rules r mem).statements (rules r mem).2)

end Asks

end PatternAction
