import PatternAction.Proofs.Script.LockstepStmt
import PatternAction.Script.Source

/-!
The places that a script keeps.  They are listed node by node, and in a tree built from tokens each
of them is the place of one of the tokens.  So whatever tokens are read, a diagnostic of the parser
and every place in its tree point at a token that is really there.
-/

set_option autoImplicit false
set_option relaxedAutoImplicit false

namespace PatternAction

/-! ## All places of a tree -/

mutual

def Expr.locations : Expr → List Location
  | .const _ | .pattern _ => []
  | .var _ l => [l]
  | .elem _ index l => l :: index.locations
  | .unary _ e l => l :: e.locations
  | .binary _ a b l => l :: (a.locations ++ b.locations)
  | .ternary c a b l => l :: (c.locations ++ a.locations ++ b.locations)
  | .call _ args l => l :: Expr.locationsList args
  | .assign _ target value l => l :: (target.locations ++ value.locations)

def Expr.locationsList : List Expr → List Location
  | [] => []
  | e :: es => e.locations ++ Expr.locationsList es

end

mutual

def Stmt.locations : Stmt → List Location
  | .expr e => e.locations
  | .choice arms l => l :: Arm.locationsList arms
  | .while c body l => l :: (c.locations ++ body.locations)
  | .doWhile body c l => l :: (body.locations ++ c.locations)
  | .for init c update body l =>
    l :: ((init.toList ++ c.toList ++ update.toList).flatMap Expr.locations ++ body.locations)
  | .forIn _ _ body l => l :: body.locations
  | .return value l => l :: value.toList.flatMap Expr.locations
  | .break l | .continue l => [l]
  | .delete _ indices l => l :: indices.flatMap Expr.locations

/-- The places kept in a block, its own among them. -/
def Block.locations : Block → List Location
  | .mk guard statements l =>
    l :: (guard.toList.flatMap Expr.locations ++ Stmt.locationsList statements)

def Arm.locations : Arm → List Location
  | .mk condition body => condition.toList.flatMap Expr.locations ++ body.locations

def Stmt.locationsList : List Stmt → List Location
  | [] => []
  | s :: ss => s.locations ++ Stmt.locationsList ss

def Arm.locationsList : List Arm → List Location
  | [] => []
  | arm :: arms => arm.locations ++ Arm.locationsList arms

end

def Function.locations (f : Function) : List Location :=
  f.location :: f.body.flatMap Stmt.locations

/-- The places kept in a script. -/
def Program.locations (p : Program) : List Location :=
  p.functions.flatMap Function.locations ++ (p.begins ++ p.ends ++ p.rules).flatMap Block.locations

private theorem Expr.locationsList_eq_flatMap (es : List Expr) :
    Expr.locationsList es = es.flatMap Expr.locations := by
  induction es with
  | nil => rfl
  | cons e es ih => rw [Expr.locationsList, ih, List.flatMap_cons]

private theorem Stmt.locationsList_eq_flatMap (ss : List Stmt) :
    Stmt.locationsList ss = ss.flatMap Stmt.locations := by
  induction ss with
  | nil => rfl
  | cons s ss ih => rw [Stmt.locationsList, ih, List.flatMap_cons]

private theorem Arm.locationsList_eq_flatMap (arms : List Arm) :
    Arm.locationsList arms = arms.flatMap Arm.locations := by
  induction arms with
  | nil => rfl
  | cons arm arms ih => rw [Arm.locationsList, ih, List.flatMap_cons]

private theorem Block.locations_eq (b : Block) :
    b.locations = b.location ::
      (b.guard.toList.flatMap Expr.locations ++ b.statements.flatMap Stmt.locations) := by
  obtain ⟨guard, statements, l⟩ := b
  rw [Block.locations, Stmt.locationsList_eq_flatMap]
  rfl

/-! ## Places of built trees -/

section

variable {among : Token → Prop}

def AllPlaced (among : Token → Prop) (ls : List Location) : Prop :=
  ∀ l ∈ ls, Placed among l

namespace AllPlaced

private theorem nil : AllPlaced among [] :=
  nofun

private theorem cons {l : Location} {ls : List Location} (h : Placed among l)
    (hs : AllPlaced among ls) :
    AllPlaced among (l :: ls) :=
  List.forall_mem_cons.mpr ⟨h, hs⟩

private theorem append {ls ls' : List Location} (h : AllPlaced among ls)
    (h' : AllPlaced among ls') :
    AllPlaced among (ls ++ ls') :=
  List.forall_mem_append.mpr ⟨h, h'⟩

private theorem flatMap {α : Type} {f : α → List Location} {as : List α}
    (h : ∀ a ∈ as, AllPlaced among (f a)) : AllPlaced among (as.flatMap f) := by
  intro l mem
  obtain ⟨a, inside, here⟩ := List.mem_flatMap.mp mem
  exact h a inside l here

end AllPlaced

open AllPlaced

private theorem Expr.Built.allPlaced {e : Expr} (h : e.Built among) :
    AllPlaced among e.locations := by
  -- A compound assignment and a step keep their place twice, also in the value they store.
  induction h with
  | const | pattern => exact nil
  | var _ hl => exact cons hl nil
  | elem _ _ hl index => exact cons hl index
  | unary _ _ hl operand => exact cons hl operand
  | binary _ _ _ hl left right => exact cons hl (left.append right)
  | ternary _ _ _ hl condition yes no => exact cons hl ((condition.append yes).append no)
  | call _ _ hl args =>
    rw [Expr.locations, Expr.locationsList_eq_flatMap]
    exact cons hl (flatMap args)
  | assign _ _ hl target value => exact cons hl (target.append value)
  | compound _ _ _ hl target value => exact cons hl (target.append (cons hl (target.append value)))
  | stepBy _ _ hl operand => exact cons hl (operand.append (cons hl operand))

private theorem Expr.allPlaced_toList {e? : Option Expr} (h : ∀ e ∈ e?, e.Built among) :
    AllPlaced among (e?.toList.flatMap Expr.locations) :=
  flatMap fun e mem => (h e (Option.mem_toList.mp mem)).allPlaced

private theorem Block.Bare.allPlaced {b : Block} (bare : b.Bare among)
    (h : ∀ s ∈ b.statements, AllPlaced among s.locations) : AllPlaced among b.locations := by
  rw [Block.locations_eq, bare.guard]
  exact cons bare.location (flatMap h)

private theorem Stmt.Built.allPlaced {s : Stmt} (h : s.Built among) :
    AllPlaced among s.locations := by
  induction h with
  | expr value => exact value.allPlaced
  | @choice guarded otherwise _ _ conditions bare _ hl bodies =>
    rw [Stmt.locations, Arm.locationsList_eq_flatMap]
    have blocks : ∀ b ∈ guarded.map Prod.snd ++ otherwise.toList, AllPlaced among b.locations :=
      fun b mem => (bare b mem).allPlaced (bodies b mem)
    refine cons hl (flatMap (Arm.forall_mem_all.mpr ⟨fun g mem => ?_, fun b mem => ?_⟩))
    · have condition : ∀ e ∈ some g.1, e.Built among := by
        intro e same
        exact Option.some.inj same ▸ conditions g mem
      exact (Expr.allPlaced_toList condition).append
        (blocks g.2 (List.mem_append_left _ (List.mem_map_of_mem mem)))
    · exact blocks b (List.mem_append_right _ mem)
  | «while» condition bare _ hl body =>
    exact cons hl (condition.allPlaced.append (bare.allPlaced body))
  | doWhile bare _ condition hl body =>
    exact cons hl ((bare.allPlaced body).append condition.allPlaced)
  | «for» init condition update bare _ hl body =>
    rw [Stmt.locations, List.flatMap_append, List.flatMap_append]
    have header := ((Expr.allPlaced_toList init).append (Expr.allPlaced_toList condition)).append
      (Expr.allPlaced_toList update)
    exact cons hl (header.append (bare.allPlaced body))
  | forIn _ _ bare _ hl body => exact cons hl (bare.allPlaced body)
  | «return» value hl => exact cons hl (Expr.allPlaced_toList value)
  | «break» hl => exact cons hl nil
  | «continue» hl => exact cons hl nil
  | delete _ indices hl => exact cons hl (flatMap fun e mem => (indices e mem).allPlaced)

private theorem Block.Built.allPlaced {b : Block} (h : b.Built among) :
    AllPlaced among b.locations :=
  h.toBare.allPlaced fun s mem => (h.statements s mem).allPlaced

private theorem Function.Built.allPlaced {f : Function} (h : f.Built among) :
    AllPlaced among f.locations :=
  cons h.location (flatMap fun s mem => (h.body s mem).allPlaced)

private theorem Rule.Built.allPlaced {r : Rule} (h : r.Built among) :
    AllPlaced among r.locations := by
  rw [Block.locations_eq]
  exact cons h.location ((Expr.allPlaced_toList h.guard).append
    (flatMap fun s mem => (h.statements s mem).allPlaced))

private theorem Program.Built.allPlaced {p : Program} (h : p.Built among) :
    AllPlaced among p.locations := by
  have blocks : ∀ b ∈ p.begins ++ p.ends, b.Built among :=
    List.forall_mem_append.mpr ⟨h.begins, h.ends⟩
  refine append ?_ (flatMap (List.forall_mem_append.mpr ⟨fun b mem => ?_, fun r mem => ?_⟩))
  · exact flatMap fun f mem => (h.functions f mem).allPlaced
  · exact (blocks b mem).allPlaced
  · exact (h.rules r mem).allPlaced

end

/-- Whatever tokens are read, with an end behind them: either they are a script, and every place
kept in it is the place of one of them, or they are refused at one of them, with a diagnostic that
has its place and that ends by saying what was found there. -/
theorem Program.places_among_tokens (tokens : List Token) :
    (∃ p, ofTokens tokens = .ok p ∧
      ∀ l ∈ p.locations, ∃ t ∈ Cursor.complete tokens, t.location = l) ∨
    ∃ f, ofTokens tokens = .error (.fault f) ∧
      ∃ t ∈ Cursor.complete tokens, ∃ words,
        f.report = .parser (words ++ ", found " ++ t.kind.render) t.location := by
  rcases ofTokens_alike (rfl : tokens.map (·.kind) = tokens.map (·.kind)) with
    ⟨p, _, read, -, alike⟩ | ⟨f, _, refused, -, -, found⟩
  · exact .inl ⟨p, read, alike.holds.allPlaced⟩
  · exact .inr ⟨f, refused, f.found, found, f.cause.message, rfl⟩

end PatternAction
