import PatternAction.Proofs.Script.Grammar
import PatternAction.Proofs.Script.Unplaced

/-!
The trees that a parser builds from given tokens.  Every name in such a tree is a word among the
tokens or a keyword that stands for a call, every place is the place of one of the tokens, and the
operators stand where the grammar puts them.  Two trees are alike if they are the same up to places
and the first of them is built from the tokens.
-/

set_option autoImplicit false
set_option relaxedAutoImplicit false

namespace PatternAction

section Built

variable (among : Token → Prop)

def Worded (name : String) : Prop :=
  ∃ t, among t ∧ t.kind = .word name

def Placed (l : Location) : Prop :=
  ∃ t, among t ∧ t.location = l

inductive Expr.Built : Expr → Prop
  | const (text : String) : Built (.const text)
  | pattern (text : String) : Built (.pattern text)
  | var {name : String} {l : Location} :
      Worded among name → Placed among l → Built (.var name l)
  | elem {name : String} {index : Expr} {l : Location} :
      Worded among name → Built index → Placed among l → Built (.elem name index l)
  | unary {op : Operator} {e : Expr} {l : Location} :
      op ∈ [.not, .unaryNeg, .unaryPos, .dollar] → Built e → Placed among l →
      Built (.unary op e l)
  | binary {op : Operator} {a b : Expr} {l : Location} :
      op.isBinary = true → Built a → Built b → Placed among l → Built (.binary op a b l)
  | ternary {c a b : Expr} {l : Location} :
      Built c → Built a → Built b → Placed among l → Built (.ternary c a b l)
  | call {name : String} {args : List Expr} {l : Location} :
      Worded among name ∨ (∃ k : Keyword, name = k.spelling) → (∀ e ∈ args, Built e) →
      Placed among l → Built (.call name args l)
  | assign {target value : Expr} {l : Location} :
      Built target → Built value → Placed among l → Built (.assign .plain target value l)
  | compound {op : Operator} {target value : Expr} {l : Location} :
      op ∈ Grammar.compounds.map Prod.snd → Built target → Built value → Placed among l →
      Built (.assign (.compound op) target (.binary op target value l) l)
  | stepBy {op : Operator} {e : Expr} {l : Location} :
      op ∈ [.preInc, .preDec, .postInc, .postDec] → Built e → Placed among l →
      Built (.stepBy op e l)

/-- The arms of a choice: those with a condition, and at most one without, at the end. -/
def Arm.all (guarded : List (Expr × Block)) (otherwise : Option Block) : List Arm :=
  guarded.map (fun g => .mk (some g.1) g.2) ++ otherwise.toList.map (.mk none)

/-- A block without a guard, at the place of one of the tokens. -/
structure Block.Bare (b : Block) : Prop where
  guard : b.guard = none
  location : Placed among b.location

inductive Stmt.Built : Stmt → Prop
  | expr {e : Expr} : e.Built among → Built (.expr e)
  | choice {guarded : List (Expr × Block)} {otherwise : Option Block} {l : Location} :
      guarded ≠ [] → (∀ g ∈ guarded, g.1.Built among) →
      (∀ b ∈ guarded.map Prod.snd ++ otherwise.toList, b.Bare among) →
      (∀ b ∈ guarded.map Prod.snd ++ otherwise.toList, ∀ s ∈ b.statements, Built s) →
      Placed among l → Built (.choice (Arm.all guarded otherwise) l)
  | while {c : Expr} {body : Block} {l : Location} :
      c.Built among → body.Bare among → (∀ s ∈ body.statements, Built s) →
      Placed among l → Built (.while c body l)
  | doWhile {c : Expr} {body : Block} {l : Location} :
      body.Bare among → (∀ s ∈ body.statements, Built s) → c.Built among →
      Placed among l → Built (.doWhile body c l)
  | for {init c update : Option Expr} {body : Block} {l : Location} :
      (∀ e ∈ init, e.Built among) → (∀ e ∈ c, e.Built among) → (∀ e ∈ update, e.Built among) →
      body.Bare among → (∀ s ∈ body.statements, Built s) → Placed among l →
      Built (.for init c update body l)
  | forIn {name array : String} {body : Block} {l : Location} :
      Worded among name → Worded among array → body.Bare among →
      (∀ s ∈ body.statements, Built s) → Placed among l → Built (.forIn name array body l)
  | return {value : Option Expr} {l : Location} :
      (∀ e ∈ value, e.Built among) → Placed among l → Built (.return value l)
  | break {l : Location} : Placed among l → Built (.break l)
  | continue {l : Location} : Placed among l → Built (.continue l)
  | delete {array : String} {indices : List Expr} {l : Location} :
      Worded among array → (∀ e ∈ indices, e.Built among) → Placed among l →
      Built (.delete array indices l)

structure Block.Built (b : Block) : Prop extends b.Bare among where
  statements : ∀ s ∈ b.statements, s.Built among

/-- The arms of a choice, or those behind the first of them, built from the tokens. -/
def Arm.AllBuilt (arms : List Arm) : Prop :=
  ∃ guarded otherwise, arms = Arm.all guarded otherwise ∧ (∀ g ∈ guarded, g.1.Built among) ∧
    ∀ b ∈ guarded.map Prod.snd ++ otherwise.toList, b.Built among

structure Function.Built (f : Function) : Prop where
  name : Worded among f.name
  params : ∀ p ∈ f.params, Worded among p
  body : ∀ s ∈ f.body, s.Built among
  location : Placed among f.location

structure Rule.Built (r : Rule) : Prop where
  guard : ∀ e ∈ r.guard, e.Built among
  statements : ∀ s ∈ r.statements, s.Built among
  location : Placed among r.location

structure Program.Built (p : Program) : Prop where
  functions : ∀ f ∈ p.functions, f.Built among
  begins : ∀ b ∈ p.begins, b.Built among
  ends : ∀ b ∈ p.ends, b.Built among
  rules : ∀ r ∈ p.rules, r.Built among

end Built

theorem Arm.forall_mem_all {guarded : List (Expr × Block)} {otherwise : Option Block}
    {P : Arm → Prop} :
    (∀ arm ∈ Arm.all guarded otherwise, P arm) ↔
      (∀ g ∈ guarded, P (.mk (some g.1) g.2)) ∧ ∀ b ∈ otherwise.toList, P (.mk none b) := by
  simp only [Arm.all, List.forall_mem_append, List.forall_mem_map]

/-! ## Trees that are alike -/

/-- The same once something is forgotten, the first with a property. -/
structure Alike {α : Type} (forget : α → α) (P : α → Prop) (a b : α) : Prop where
  same : forget a = forget b
  holds : P a

namespace Alike

variable {α : Type} {forget : α → α} {P : α → Prop}

abbrev Listed (forget : α → α) (P : α → Prop) : List α → List α → Prop :=
  Alike (List.map forget) fun as => ∀ a ∈ as, P a

abbrev Maybe (forget : α → α) (P : α → Prop) : Option α → Option α → Prop :=
  Alike (Option.map forget) fun a? => ∀ a ∈ a?, P a

theorem nil : Listed forget P [] [] :=
  ⟨rfl, nofun⟩

theorem cons {a b : α} {as bs : List α} (h : Alike forget P a b) (hs : Listed forget P as bs) :
    Listed forget P (a :: as) (b :: bs) := by
  refine ⟨?_, List.forall_mem_cons.mpr ⟨h.holds, hs.holds⟩⟩
  rw [List.map_cons, List.map_cons, h.same, hs.same]

theorem concat {a b : α} {as bs : List α} (hs : Listed forget P as bs) (h : Alike forget P a b) :
    Listed forget P (as ++ [a]) (bs ++ [b]) := by
  refine ⟨?_, ?_⟩
  · rw [List.map_append, List.map_append, hs.same, List.map_singleton, List.map_singleton, h.same]
  · intro e mem
    rcases List.mem_append.mp mem with front | last
    · exact hs.holds e front
    · rw [List.mem_singleton.mp last]
      exact h.holds

theorem none : Maybe forget P none none :=
  ⟨rfl, nofun⟩

theorem some {a b : α} (h : Alike forget P a b) : Maybe forget P (some a) (some b) := by
  refine ⟨congrArg Option.some h.same, ?_⟩
  intro e mem
  rw [← Option.mem_some.mp mem]
  exact h.holds

end Alike

section

variable (among : Token → Prop)

abbrev Expr.Alike : Expr → Expr → Prop :=
  PatternAction.Alike Expr.unplaced (Expr.Built among)

abbrev Stmt.Alike : Stmt → Stmt → Prop :=
  PatternAction.Alike Stmt.unplaced (Stmt.Built among)

abbrev Block.Alike : Block → Block → Prop :=
  PatternAction.Alike Block.unplaced (Block.Built among)

abbrev Function.Alike : Function → Function → Prop :=
  PatternAction.Alike Function.unplaced (Function.Built among)

abbrev Rule.Alike : Rule → Rule → Prop :=
  PatternAction.Alike Block.unplaced (Rule.Built among)

abbrev Program.Alike : Program → Program → Prop :=
  PatternAction.Alike Program.unplaced (Program.Built among)

end

variable {among : Token → Prop}

theorem Expr.alike_call {name : String} {args args' : List Expr}
    {l l' : Location} (hname : Worded among name ∨ ∃ k : Keyword, name = k.spelling)
    (hargs : Alike.Listed Expr.unplaced (Expr.Built among) args args') (hl : Placed among l) :
    Expr.Alike among (.call name args l) (.call name args' l') := by
  refine ⟨?_, .call hname hargs.holds hl⟩
  simp only [Expr.unplaced, Expr.unplacedList_eq_map, hargs.same]

theorem Block.alike_mk {statements statements' : List Stmt} {l l' : Location}
    (h : Alike.Listed Stmt.unplaced (Stmt.Built among) statements statements')
    (hl : Placed among l) :
    Block.Alike among (.mk none statements l) (.mk none statements' l') := by
  refine ⟨?_, ⟨⟨rfl, hl⟩, h.holds⟩⟩
  simp only [Block.unplaced, Stmt.unplacedList_eq_map, h.same]

theorem Block.alike_statements {b b' : Block} (h : Block.Alike among b b') :
    Alike.Listed Stmt.unplaced (Stmt.Built among) b.statements b'.statements := by
  refine ⟨?_, h.holds.statements⟩
  rw [← Block.statements_unplaced, h.same, Block.statements_unplaced]

abbrev Arm.AllAlike (among : Token → Prop) : List Arm → List Arm → Prop :=
  PatternAction.Alike (List.map Arm.unplaced) (Arm.AllBuilt among)

theorem Arm.allAlike_nil : Arm.AllAlike among [] [] :=
  ⟨rfl, [], none, rfl, nofun, nofun⟩

theorem Arm.allAlike_otherwise {b b' : Block} (h : Block.Alike among b b') :
    Arm.AllAlike among [.mk none b] [.mk none b'] := by
  refine ⟨?_, [], some b, rfl, nofun, ?_⟩
  · simp only [List.map_cons, Arm.unplaced, h.same, Option.map_none, List.map_nil]
  · intro a mem
    rw [List.mem_singleton.mp mem]
    exact h.holds

theorem Arm.allAlike_cons {c c' : Expr} {b b' : Block} {arms arms' : List Arm}
    (hc : Expr.Alike among c c') (hb : Block.Alike among b b') (h : Arm.AllAlike among arms arms') :
    Arm.AllAlike among (.mk (some c) b :: arms) (.mk (some c') b' :: arms') := by
  obtain ⟨guarded, otherwise, rfl, conditions, blocks⟩ := h.holds
  refine ⟨?_, (c, b) :: guarded, otherwise, rfl, ?_, ?_⟩
  · simp only [List.map_cons, Arm.unplaced, Option.map_some, hc.same, hb.same, h.same]
  · exact List.forall_mem_cons.mpr ⟨hc.holds, conditions⟩
  · exact List.forall_mem_cons.mpr ⟨hb.holds, blocks⟩

theorem Stmt.alike_choice {c c' : Expr} {b b' : Block} {arms arms' : List Arm} {l l' : Location}
    (hc : Expr.Alike among c c') (hb : Block.Alike among b b') (h : Arm.AllAlike among arms arms')
    (hl : Placed among l) :
    Stmt.Alike among (.choice (.mk (some c) b :: arms) l)
      (.choice (.mk (some c') b' :: arms') l') := by
  have whole := Arm.allAlike_cons hc hb h
  obtain ⟨guarded, otherwise, rfl, conditions, blocks⟩ := h.holds
  refine ⟨?_, ?_⟩
  · simp only [Stmt.unplaced, Arm.unplacedList_eq_map, whole.same]
  · refine @Stmt.Built.choice among ((c, b) :: guarded) otherwise l (by simp) ?_ ?_ ?_ hl
    · exact List.forall_mem_cons.mpr ⟨hc.holds, conditions⟩
    · exact List.forall_mem_cons.mpr ⟨hb.holds.toBare, fun a mem => (blocks a mem).toBare⟩
    · exact List.forall_mem_cons.mpr ⟨hb.holds.statements, fun a mem => (blocks a mem).statements⟩

end PatternAction
