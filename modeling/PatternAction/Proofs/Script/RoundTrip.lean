import PatternAction.Proofs.Script.Reading
import PatternAction.Proofs.Script.Written

/-!
Written expressions parse back.  `Gives` says that, with enough fuel, the parser of a level takes
some tokens as an expression wherever a token of a given sort comes next.  An operand in
parentheses is taken at the tightest level and, if what follows does not go on with it, at the
looser ones too; from this each operator is read at its own level.  The main statement is that
the text of an expression tokenizes and parses to the same expression, up to places, with nothing
left over.
-/

set_option autoImplicit false
set_option relaxedAutoImplicit false

namespace PatternAction

open Token (Kind)
open Grammar

namespace Level

/-- Whether an expression of the level may go on with such a token, behind its first operand. -/
def goesOn : Level → Kind → Bool
  | .assignment, k => (Parser.assignForm? k).isSome
  | .ternary, k => k = .symbol .question
  | .chain c, k => (c.operator? k).isSome
  | .concatenation, k => Parser.joins k
  | .exponent, k => k = .symbol .caret
  | .step, k => (Parser.trailingStep? k).isSome
  | .primary, _ => false

def ordered : List Level :=
  [.primary, .step, .exponent, .chain .multiplicative, .chain .additive, .concatenation,
    .chain .comparison, .chain .matching, .chain .membership, .chain .and, .chain .or, .ternary,
    .assignment]

private theorem ordered_rank (l : Level) : ordered[l.rank]? = some l := by
  cases l with
  | chain chain => cases chain <;> rfl
  | _ => rfl

private theorem rank_injective {l l' : Level} (h : l.rank = l'.rank) : l = l' :=
  Option.some.inj ((ordered_rank l).symm.trans (h ▸ ordered_rank l'))

theorem mem_ordered (l : Level) : l ∈ ordered :=
  List.mem_of_getElem? (ordered_rank l)

end Level

def closings : List Kind :=
  [.symbol .rightParen, .symbol .rightBracket, .symbol .comma, .eof]

def Closing (k : Kind) : Prop :=
  k ∈ closings

private theorem Closing.goesOn {k : Kind} (h : Closing k) (l : Level) : l.goesOn k = false := by
  have all : ∀ k ∈ closings, ∀ l ∈ Level.ordered, l.goesOn k = false := by decide
  exact all k h l l.mem_ordered

private theorem goesOn_operators {chain : Chain} {p : Kind × Operator} (mem : p ∈ operators chain)
    (l : Level) (tight : l.rank ≤ (tighter (.chain chain)).rank) : l.goesOn p.1 = false := by
  have all : ∀ p ∈ operators chain, ∀ l ∈ Level.ordered,
      l.rank ≤ (tighter (.chain chain)).rank → l.goesOn p.1 = false := by
    cases chain <;> decide
  exact all p mem l l.mem_ordered tight

def AssignForm.stored : AssignForm → Expr → Expr → Location → Expr
  | .compound op, target, value, l => .binary op target value l
  | _, _, value, _ => value

private theorem Operator.isBinary_cases {op : Operator} (h : op.isBinary) :
    op = .concatenation ∨ op = .exponent ∨
      ∃ chain k, (k, op) ∈ operators chain ∧ op.kinds = [k] := by
  cases op with
  | concatenation => exact .inl rfl
  | exponent => exact .inr (.inl rfl)
  | or => exact .inr (.inr ⟨.or, _, by decide, rfl⟩)
  | and => exact .inr (.inr ⟨.and, _, by decide, rfl⟩)
  | «in» => exact .inr (.inr ⟨.membership, _, by decide, rfl⟩)
  | «match» | notMatch => exact .inr (.inr ⟨.matching, _, by decide, rfl⟩)
  | eq | ne | lt | le | gt | ge => exact .inr (.inr ⟨.comparison, _, by decide, rfl⟩)
  | add | subtract => exact .inr (.inr ⟨.additive, _, by decide, rfl⟩)
  | multiply | divide | modulo => exact .inr (.inr ⟨.multiplicative, _, by decide, rfl⟩)
  | _ => cases h

namespace Parser

theorem required_run {α : Type} {p : Parser α} {c c' : Cursor} {a : α}
    (h : c.current.kind.startsExpression = true) (run : p c = .ok (a, c')) :
    required p c = .ok (a, c') := by
  rw [required, atExpression_bind, if_pos h, run]

theorem expectSymbol_run {s : Symbol} (cause : ParseCause) {c : Cursor}
    (h : c.current.kind = .symbol s) : expectSymbol s cause c = .ok ((), c.advance.2) := by
  rw [expectSymbol, acceptSymbol_bind, if_pos h]
  rfl

private theorem starts_of_grouped {ks : List Kind} {c c' : Cursor} (took : c.Took (grouped ks) c') :
    c.current.kind.startsExpression = true := by
  rw [took.head]
  rfl

/-- Behind an operand with which the level does not go on, it is the expression of the level. -/
theorem atLevel_of_tighter {sub : Level → Parser Expr} {fuel : Nat} {l : Level} {c c' : Cursor}
    {e : Expr} (loose : l ≠ .primary) (run : sub (tighter l) c = .ok (e, c'))
    (quiet : l.goesOn c'.current.kind = false) (pos : 0 < fuel) :
    atLevel sub fuel l c = .ok (e, c') := by
  cases l with
  | assignment =>
    have none : assignForm? c'.current.kind = none := by simpa [Level.goesOn] using quiet
    rw [tighter] at run
    rw [atLevel, assignment, bind_run run, location_bind, kind_bind, none]
    rfl
  | ternary =>
    have other : c'.current.kind ≠ .symbol .question := by simpa [Level.goesOn] using quiet
    rw [tighter] at run
    rw [atLevel, ternary, bind_run run, location_bind, acceptSymbol_bind, if_neg other]
    rfl
  | chain chain =>
    have none : chain.operator? c'.current.kind = none := by simpa [Level.goesOn] using quiet
    obtain ⟨fuel, rfl⟩ : ∃ m, fuel = m + 1 := ⟨fuel - 1, by omega⟩
    rw [atLevel, operand_eq_tighter, bind_run run, chainTail, kind_bind, none]
    rfl
  | concatenation =>
    have other : joins c'.current.kind = false := by simpa [Level.goesOn] using quiet
    rw [tighter] at run
    rw [atLevel, concatenation, bind_run run, kind_bind, other]
    rfl
  | exponent =>
    have other : c'.current.kind ≠ .symbol .caret := by simpa [Level.goesOn] using quiet
    rw [tighter] at run
    rw [atLevel, exponent, bind_run run, location_bind, acceptSymbol_bind, if_neg other]
    rfl
  | step =>
    have none : trailingStep? c'.current.kind = none := by simpa [Level.goesOn] using quiet
    rw [tighter] at run
    rw [atLevel, step, bind_run run, location_bind, kind_bind, none]
    rfl
  | primary => exact absurd rfl loose

/-- With `fuel` or more, the parser of the level takes tokens of the kinds `ks` as the expression,
up to places, wherever a token of the sort `follow` comes next. -/
def Gives (fuel : Nat) (l : Level) (ks : List Kind) (follow : Kind → Prop) (e : Expr) : Prop :=
  ∀ n, fuel ≤ n → ∀ ⦃c c' : Cursor⦄, c.Took ks c' → follow c'.current.kind →
    ∃ e', level n l c = .ok (e', c') ∧ e'.erase = e.erase

section Gives

variable {fuel fuel' : Nat} {l : Level} {ks : List Kind} {follow : Kind → Prop} {e : Expr}

private theorem Gives.mono (h : Gives fuel l ks follow e) (more : fuel ≤ fuel') :
    Gives fuel' l ks follow e :=
  fun n enough => h n (Nat.le_trans more enough)

/-- A level is read with one unit of fuel more than the levels it is made of. -/
theorem gives_of_atLevel (h : ∀ n, fuel ≤ n → ∀ ⦃c c' : Cursor⦄, c.Took ks c' →
      follow c'.current.kind →
      ∃ e', atLevel (level n) n l c = .ok (e', c') ∧ e'.erase = e.erase) :
    Gives (fuel + 1) l ks follow e := by
  intro n enough c c' took next
  obtain ⟨n, rfl⟩ : ∃ m, n = m + 1 := ⟨n - 1, by omega⟩
  exact h n (by omega) took next

private theorem Gives.of_tighter (h : Gives fuel (tighter l) ks follow e) (loose : l ≠ .primary)
    (quiet : ∀ k, follow k → l.goesOn k = false) (pos : 0 < fuel) :
    Gives (fuel + 1) l ks follow e := by
  apply gives_of_atLevel
  intro n enough c c' took next
  obtain ⟨e', run, same⟩ := h n enough took next
  exact ⟨e', atLevel_of_tighter loose run (quiet _ next) (by omega), same⟩

theorem Gives.climb {low : Level} (h : Gives fuel low ks follow e) (pos : 0 < fuel)
    (le : low.rank ≤ l.rank)
    (quiet : ∀ k, follow k → ∀ m : Level, low.rank < m.rank → m.rank ≤ l.rank →
      m.goesOn k = false) : Gives (fuel + (l.rank - low.rank)) l ks follow e := by
  -- By induction on the number of levels between the two, from the upper one down.
  obtain ⟨d, apart⟩ : ∃ d, l.rank = low.rank + d := Nat.exists_eq_add_of_le le
  induction d generalizing l with
  | zero =>
    obtain rfl : l = low := Level.rank_injective apart
    simpa using h
  | succ d ih =>
    have loose : l ≠ .primary := by
      rintro rfl
      simp [Level.rank] at apart
    have rank := Level.rank_tighter loose
    have below := ih (l := tighter l) (by omega)
      (fun k next m above upTo => quiet k next m above (by omega)) (by omega)
    have here := below.of_tighter loose (fun k next => quiet k next l (by omega) (by omega))
      (by omega)
    exact here.mono (by omega)

private theorem Gives.loosest (h : Gives fuel l ks Closing e) (pos : 0 < fuel) :
    Gives (fuel + 12) .assignment ks Closing e := by
  have climbed := h.climb (l := .assignment) pos l.rank_le fun k closing m _ _ => closing.goesOn m
  exact climbed.mono (by simp only [Level.rank]; omega)

/-! ## Operands -/

private theorem gives_grouped (h : Gives fuel .assignment ks Closing e) :
    Gives (fuel + 1) .primary (grouped ks) follow e := by
  apply gives_of_atLevel
  intro n enough c c' took _
  obtain ⟨c₁, tookInner, tookClose⟩ := (took.tail (by simp)).split
  have close := tookClose.head
  obtain ⟨e', run, same⟩ := h n enough tookInner (by simp [close, Closing, closings])
  obtain rfl : c₁.advance.2 = c' := (tookClose.tail (by simp)).eq_of_nil
  refine ⟨e', ?_, same⟩
  rw [atLevel, primary, location_bind, kind_bind, took.head]
  simp only
  rw [advance_bind, bind_run run, bind_run (expectSymbol_run _ close)]
  rfl

private theorem gives_operand (h : Gives fuel .assignment ks Closing e)
    (quiet : ∀ k, follow k → ∀ m : Level, m.rank ≤ l.rank → m.goesOn k = false) :
    Gives (fuel + 13) l (grouped ks) follow e := by
  have climbed := (gives_grouped h).climb (l := l) (by omega) (Nat.zero_le _)
    fun k next m _ upTo => quiet k next m upTo
  have bound := l.rank_le
  exact climbed.mono (by omega)

private theorem gives_operandBefore {k : Kind} (h : Gives fuel .assignment ks Closing e)
    (quiet : ∀ m ∈ Level.ordered, m.rank ≤ l.rank → m.goesOn k = false) :
    Gives (fuel + 13) l (grouped ks) (· = k) e :=
  gives_operand h fun _ next m tight => next ▸ quiet m m.mem_ordered tight

private theorem gives_lastOperand (h : Gives fuel .assignment ks Closing e) (l : Level) :
    Gives (fuel + 13) l (grouped ks) Closing e :=
  gives_operand h fun _ closing m _ => closing.goesOn m

/-! ## Operators -/

variable {ls rs : List Kind} {left right : Expr}

private theorem gives_chain {chain : Chain} {p : Kind × Operator} (mem : p ∈ operators chain)
    (hleft : Gives fuel .assignment ls Closing left)
    (hright : Gives fuel .assignment rs Closing right) (place : Location) :
    Gives (fuel + 14) (.chain chain) (grouped ls ++ p.1 :: grouped rs) Closing
      (.binary p.2 left right place) := by
  obtain ⟨operator, more⟩ := operator?_of_mem mem
  have first : Gives (fuel + 13) (tighter (.chain chain)) (grouped ls) (· = p.1) left :=
    gives_operandBefore hleft fun m _ tight => goesOn_operators mem m tight
  have second := gives_lastOperand hright (tighter (.chain chain))
  apply gives_of_atLevel
  intro n enough c c' took closing
  -- The loop runs twice: once for the operator, and once more to find that none follows.
  obtain ⟨n, rfl⟩ : ∃ m, n = m + 2 := ⟨n - 2, by omega⟩
  obtain ⟨c₁, tookLeft, tookTail⟩ := took.split
  have tookRight := tookTail.tail more
  obtain ⟨left', runLeft, sameLeft⟩ := first (n + 2) (by omega) tookLeft tookTail.head
  obtain ⟨right', runRight, sameRight⟩ := second (n + 2) (by omega) tookRight closing
  have start := starts_of_grouped tookRight
  have none : chain.operator? c'.current.kind = none := by
    simpa [Level.goesOn] using closing.goesOn (.chain chain)
  refine ⟨.binary p.2 left' right' c₁.location, ?_, by simp [Expr.erase, sameLeft, sameRight]⟩
  rw [atLevel, operand_eq_tighter, bind_run runLeft, chainTail, kind_bind, tookTail.head, operator]
  simp only
  rw [location_bind, advance_bind, bind_run (required_run start runRight), chainTail, kind_bind,
    none]
  rfl

private theorem gives_concatenation (hleft : Gives fuel .assignment ls Closing left)
    (hright : Gives fuel .assignment rs Closing right) (place : Location) :
    Gives (fuel + 14) .concatenation (grouped ls ++ grouped rs) Closing
      (.binary .concatenation left right place) := by
  have first : Gives (fuel + 13) (.chain .additive) (grouped ls) (· = .symbol .leftParen) left :=
    gives_operandBefore hleft (by decide)
  have second := gives_lastOperand hright .concatenation
  apply gives_of_atLevel
  intro n enough c c' took closing
  obtain ⟨c₁, tookLeft, tookRight⟩ := took.split
  obtain ⟨left', runLeft, sameLeft⟩ := first n (by omega) tookLeft tookRight.head
  obtain ⟨right', runRight, sameRight⟩ := second n (by omega) tookRight closing
  refine ⟨.binary .concatenation left' right' c₁.location, ?_,
    by simp [Expr.erase, sameLeft, sameRight]⟩
  rw [atLevel, concatenation, bind_run runLeft, kind_bind, tookRight.head]
  change (location >>= fun l => level n .concatenation >>= _) c₁ = _
  rw [location_bind, bind_run runRight]
  rfl

private theorem gives_exponent (hleft : Gives fuel .assignment ls Closing left)
    (hright : Gives fuel .assignment rs Closing right) (place : Location) :
    Gives (fuel + 14) .exponent (grouped ls ++ Kind.symbol .caret :: grouped rs) Closing
      (.binary .exponent left right place) := by
  have first : Gives (fuel + 13) .step (grouped ls) (· = .symbol .caret) left :=
    gives_operandBefore hleft (by decide)
  have second := gives_lastOperand hright .exponent
  apply gives_of_atLevel
  intro n enough c c' took closing
  obtain ⟨c₁, tookLeft, tookTail⟩ := took.split
  have tookRight := tookTail.tail (by simp)
  obtain ⟨left', runLeft, sameLeft⟩ := first n (by omega) tookLeft tookTail.head
  obtain ⟨right', runRight, sameRight⟩ := second n (by omega) tookRight closing
  have start := starts_of_grouped tookRight
  refine ⟨.binary .exponent left' right' c₁.location, ?_,
    by simp [Expr.erase, sameLeft, sameRight]⟩
  rw [atLevel, exponent, bind_run runLeft, location_bind, acceptSymbol_bind,
    if_pos tookTail.head, if_pos rfl, bind_run (required_run start runRight)]
  rfl

private theorem gives_binary {op : Operator} (binary : op.isBinary)
    (hleft : Gives fuel .assignment ls Closing left)
    (hright : Gives fuel .assignment rs Closing right) (place : Location) :
    Gives (fuel + 26) .assignment (grouped ls ++ (op.kinds ++ grouped rs)) Closing
      (.binary op left right place) := by
  rcases op.isBinary_cases binary with rfl | rfl | ⟨chain, k, mem, kinds⟩
  · exact (gives_concatenation hleft hright place).loosest (by omega)
  · exact (gives_exponent hleft hright place).loosest (by omega)
  · rw [kinds]
    exact (gives_chain mem hleft hright place).loosest (by omega)

private theorem gives_ternary {cs as bs : List Kind} {condition a b : Expr}
    (hcondition : Gives fuel .assignment cs Closing condition)
    (htrue : Gives fuel .assignment as Closing a) (hfalse : Gives fuel .assignment bs Closing b)
    (place : Location) :
    Gives (fuel + 14) .ternary
      (grouped cs ++ Kind.symbol .question ::
        (grouped as ++ Kind.symbol .colon :: grouped bs)) Closing
      (.ternary condition a b place) := by
  have first : Gives (fuel + 13) (.chain .or) (grouped cs) (· = .symbol .question) condition :=
    gives_operandBefore hcondition (by decide)
  have second : Gives (fuel + 13) .ternary (grouped as) (· = .symbol .colon) a :=
    gives_operandBefore htrue (by decide)
  have third := gives_lastOperand hfalse .ternary
  apply gives_of_atLevel
  intro n enough c c' took closing
  obtain ⟨c₁, tookCondition, tookArms⟩ := took.split
  have question := tookArms.head
  obtain ⟨c₂, tookTrue, tookTail⟩ := (tookArms.tail (by simp)).split
  have colon := tookTail.head
  have tookFalse := tookTail.tail (by simp)
  obtain ⟨condition', runCondition, sameCondition⟩ := first n (by omega) tookCondition question
  obtain ⟨a', runTrue, sameTrue⟩ := second n (by omega) tookTrue colon
  obtain ⟨b', runFalse, sameFalse⟩ := third n (by omega) tookFalse closing
  have start := starts_of_grouped tookTrue
  have start' := starts_of_grouped tookFalse
  refine ⟨.ternary condition' a' b' c₁.location, ?_,
    by simp [Expr.erase, sameCondition, sameTrue, sameFalse]⟩
  rw [atLevel, ternary, bind_run runCondition, location_bind, acceptSymbol_bind,
    if_pos question, if_pos rfl, bind_run (required_run start runTrue),
    bind_run (expectSymbol_run _ colon), bind_run (required_run start' runFalse)]
  rfl

private theorem gives_assign {k : Kind} {form : AssignForm} {ts vs : List Kind}
    {target target' value : Expr} (sign : assignForm? k = some form)
    (htarget : Gives fuel .assignment ts Closing target)
    (hvalue : Gives fuel .assignment vs Closing value) (same : target'.erase = target.erase)
    (place place' : Location) :
    Gives (fuel + 14) .assignment (grouped ts ++ k :: grouped vs) Closing
      (.assign form target (form.stored target' value place') place) := by
  have quiet : k ≠ .eof ∧ ∀ m ∈ Level.ordered, m.rank ≤ Level.ternary.rank →
      m.goesOn k = false := by
    rcases assignForm?_cases sign with ⟨-, rfl⟩ | ⟨s, op, -, rfl, mem⟩
    · decide
    · have all : ∀ p ∈ compounds, Kind.symbol p.1 ≠ .eof ∧ ∀ m ∈ Level.ordered,
          m.rank ≤ Level.ternary.rank → m.goesOn (.symbol p.1) = false := by decide
      exact all _ mem
  have first : Gives (fuel + 13) .ternary (grouped ts) (· = k) target :=
    gives_operandBefore htarget quiet.2
  have second := gives_lastOperand hvalue .assignment
  apply gives_of_atLevel
  intro n enough c c' took closing
  obtain ⟨c₁, tookTarget, tookTail⟩ := took.split
  have tookValue := tookTail.tail quiet.1
  obtain ⟨t, runTarget, sameTarget⟩ := first n (by omega) tookTarget tookTail.head
  obtain ⟨v, runValue, sameValue⟩ := second n (by omega) tookValue closing
  have start := starts_of_grouped tookValue
  refine ⟨.assign form t (form.stored t v c₁.location) c₁.location, ?_, ?_⟩
  · rw [atLevel, assignment, bind_run runTarget, location_bind, kind_bind, tookTail.head,
      sign]
    simp only
    rw [advance_bind, bind_run (required_run start runValue)]
    cases form <;> rfl
  · cases form <;> simp [AssignForm.stored, Expr.erase, same, sameTarget, sameValue]

private theorem leading_run {op : Operator} {operand : Parser Expr} {place : Location}
    {c c' : Cursor} {e : Expr} (start : c.advance.2.current.kind.startsExpression = true)
    (run : operand c.advance.2 = .ok (e, c')) :
    leading op operand place c = .ok (.unary op e place, c') := by
  rw [leading, advance_bind, bind_run (required_run start run)]
  rfl

private theorem leadingStep_run {op : Operator} {operand : Parser Expr} {place : Location}
    {c c' : Cursor} {e : Expr} (start : c.advance.2.current.kind.startsExpression = true)
    (run : operand c.advance.2 = .ok (e, c')) :
    leadingStep op operand place c = .ok (.stepBy op e place, c') := by
  rw [leadingStep, advance_bind, bind_run (required_run start run)]
  rfl

private theorem gives_unary {op : Operator}
    (mem : op ∈ [Operator.dollar, .unaryNeg, .unaryPos, .not])
    (h : Gives fuel .assignment ks Closing e) (place : Location) :
    Gives (fuel + 14) .primary (op.kinds ++ grouped ks) Closing (.unary op e place) := by
  -- The operand is read at one of two levels, and in parentheses it is the same at both.
  have operand := gives_lastOperand h
  apply gives_of_atLevel
  intro n enough c c' took closing
  simp only [List.mem_cons, List.not_mem_nil, or_false] at mem
  rcases mem with rfl | rfl | rfl | rfl
  all_goals
    have sign := took.head
    have tookOperand := took.tail (by simp)
    have start := starts_of_grouped tookOperand
    rw [atLevel, primary, location_bind, kind_bind, sign]
    obtain ⟨e', run, same⟩ := operand _ n enough tookOperand closing
    exact ⟨_, leading_run start run, by simp [Expr.erase, same]⟩

private theorem gives_leadingStep {op : Operator} (mem : op ∈ [Operator.preInc, .preDec])
    {target' : Expr} (h : Gives fuel .assignment ks Closing e) (same : target'.erase = e.erase)
    (place place' : Location) :
    Gives (fuel + 14) .primary (op.kinds ++ grouped ks) Closing
      (.assign .step e (.unary op target' place') place) := by
  have operand := gives_lastOperand h .primary
  apply gives_of_atLevel
  intro n enough c c' took closing
  simp only [List.mem_cons, List.not_mem_nil, or_false] at mem
  rcases mem with rfl | rfl
  all_goals
    have sign := took.head
    have tookOperand := took.tail (by simp)
    have start := starts_of_grouped tookOperand
    rw [atLevel, primary, location_bind, kind_bind, sign]
    obtain ⟨e', run, same'⟩ := operand n enough tookOperand closing
    exact ⟨_, leadingStep_run start run, by simp [Expr.stepBy, Expr.erase, same, same']⟩

private theorem gives_trailingStep {op : Operator} (mem : op ∈ [Operator.postInc, .postDec])
    {target' : Expr} (h : Gives fuel .assignment ks Closing e) (same : target'.erase = e.erase)
    (place place' : Location) :
    Gives (fuel + 14) .step (grouped ks ++ op.kinds) Closing
      (.assign .step e (.unary op target' place') place) := by
  obtain ⟨s, kinds, sign⟩ : ∃ s, op.kinds = [.symbol s] ∧ trailingStep? (.symbol s) = some op := by
    simp only [List.mem_cons, List.not_mem_nil, or_false] at mem
    rcases mem with rfl | rfl
    · exact ⟨_, rfl, rfl⟩
    · exact ⟨_, rfl, rfl⟩
  apply gives_of_atLevel
  intro n enough c c' took closing
  rw [kinds] at took
  obtain ⟨c₁, tookOperand, tookSign⟩ := took.split
  have operand : Gives (fuel + 1) .primary (grouped ks) (· = .symbol s) e := gives_grouped h
  obtain ⟨e', run, same'⟩ := operand n (by omega) tookOperand tookSign.head
  obtain rfl : c₁.advance.2 = c' := (tookSign.tail (by simp)).eq_of_nil
  refine ⟨.stepBy op e' c₁.location, ?_, by simp [Expr.stepBy, Expr.erase, same, same']⟩
  rw [atLevel, step, bind_run run, location_bind, kind_bind, tookSign.head, sign]
  rfl

/-! ## Names and literals -/

private theorem gives_const (text : String) :
    Gives 1 .primary (Expr.const text).written Closing (.const text) := by
  apply gives_of_atLevel
  intro n _ c c' took _
  obtain rfl : c.advance.2 = c' := (took.tail (by simp)).eq_of_nil
  refine ⟨.const text, ?_, rfl⟩
  rw [atLevel, primary, location_bind, kind_bind, took.head]
  simp only [String.toList_ofList, decodeEscapes_encodeEscapes, String.ofList_toList]
  rfl

private theorem gives_pattern (text : String) :
    Gives 1 .primary [.pattern text] Closing (.pattern text) := by
  apply gives_of_atLevel
  intro n _ c c' took _
  obtain rfl : c.advance.2 = c' := (took.tail (by simp)).eq_of_nil
  refine ⟨.pattern text, ?_, rfl⟩
  rw [atLevel, primary, location_bind, kind_bind, took.head]
  rfl

private theorem gives_var (text : String) (place : Location) :
    Gives 1 .primary [.word text] Closing (.var text place) := by
  apply gives_of_atLevel
  intro n _ c c' took closing
  obtain rfl : c.advance.2 = c' := (took.tail (by simp)).eq_of_nil
  have alone : ∀ k ∈ closings, k ≠ .symbol .leftParen ∧ k ≠ .symbol .leftBracket := by decide
  obtain ⟨paren, bracket⟩ := alone _ closing
  refine ⟨.var text c.location, ?_, rfl⟩
  rw [atLevel, primary, location_bind, kind_bind, took.head]
  simp only [name]
  rw [advance_bind, atSymbol_bind, if_neg (mt Cursor.check_symbol.mp paren), acceptSymbol_bind,
    if_neg bracket]
  rfl

private theorem gives_elem (text : String) (h : Gives fuel .assignment ks Closing e)
    (place : Location) :
    Gives (fuel + 1) .primary
      (.word text :: .symbol .leftBracket :: (ks ++ [Kind.symbol .rightBracket])) Closing
      (.elem text e place) := by
  apply gives_of_atLevel
  intro n enough c c' took _
  have tookBracket := took.tail (by simp)
  have bracket := tookBracket.head
  obtain ⟨c₁, tookIndex, tookClose⟩ := (tookBracket.tail (by simp)).split
  have close := tookClose.head
  obtain ⟨index, run, same⟩ := h n enough tookIndex (by simp [close, Closing, closings])
  obtain rfl : c₁.advance.2 = c' := (tookClose.tail (by simp)).eq_of_nil
  have paren : c.advance.2.current.kind ≠ .symbol .leftParen := by simp [bracket]
  refine ⟨.elem text index c.location, ?_, by simp [Expr.erase, same]⟩
  rw [atLevel, primary, location_bind, kind_bind, took.head]
  simp only [name]
  rw [advance_bind, atSymbol_bind, if_neg (mt Cursor.check_symbol.mp paren), acceptSymbol_bind,
    if_pos bracket, if_pos rfl, bind_run run, bind_run (expectSymbol_run _ close)]
  rfl

end Gives

/-! ## Arguments -/

/-- Wherever a token of the sort `follow` comes next, the parser takes the tokens of the phrase as
its tree, up to places; an expression may begin with the first of them. -/
structure Takes (x : Parser Expr) (follow : Kind → Prop) (phrase : Phrase) : Prop where
  head : ∃ k ks, phrase.1 = k :: ks ∧ k.startsExpression = true
  run : ∀ ⦃c c' : Cursor⦄, c.Took phrase.1 c' → follow c'.current.kind →
    ∃ e, x c = .ok (e, c') ∧ e.erase = phrase.2.erase

section Takes

variable {x : Parser Expr} {follow : Kind → Prop} {phrase : Phrase} {c c' : Cursor}

theorem Takes.starts (h : Takes x follow phrase) {ks : List Kind}
    (took : c.Took (phrase.1 ++ ks) c') : c.current.kind.startsExpression = true := by
  obtain ⟨k, js, split, starts⟩ := h.head
  rw [split] at took
  rwa [took.head]

/-- Behind a comma, and behind separators there if these are allowed, the parser takes the phrase.
-/
def TakesBehind (separators : Bool) (next : Parser Expr) (follow : Kind → Prop)
    (phrase : Phrase) : Prop :=
  ∀ gap, (∀ k ∈ gap, separators = true ∧ k = .separator) → ∀ ⦃c c' : Cursor⦄,
    c.Took (gap ++ phrase.1) c' → follow c'.current.kind →
      ∃ e, next c = .ok (e, c') ∧ e.erase = phrase.2.erase

private theorem Takes.separated (h : Takes x follow phrase) :
    TakesBehind true (do skipSeparators; x) follow phrase := by
  intro gap separators c c' took next
  obtain ⟨k, js, split, starts⟩ := h.head
  have other : k ≠ .separator := by
    rintro rfl
    cases starts
  rw [split] at took
  have behind := took.skipSeparators (fun k mem => (separators k mem).2) other
  rw [← split] at behind
  obtain ⟨e, run, same⟩ := h.run behind next
  exact ⟨e, (skipSeparators_bind _ c).trans run, same⟩

theorem Takes.onLine (h : Takes x follow phrase) :
    TakesBehind false (Parser.required x) follow phrase := by
  intro gap none c c' took next
  obtain rfl : gap = [] := List.eq_nil_iff_forall_not_mem.mpr fun k mem => nomatch (none k mem).1
  obtain ⟨e, run, same⟩ := h.run took next
  rw [List.nil_append, ← List.append_nil phrase.1] at took
  exact ⟨e, required_run (h.starts took) run, same⟩

theorem commaTail_run {next : Parser Expr} {separators : Bool} {phrases : List Phrase}
    {ks : List Kind} (form : BehindCommas separators phrases ks) (comma : follow (.symbol .comma))
    (items : ∀ phrase ∈ phrases, TakesBehind separators next follow phrase)
    {count : Nat} (room : phrases.length < count) (took : c.Took ks c')
    (stop : follow c'.current.kind) (other : c'.current.kind ≠ .symbol .comma) :
    ∃ es, commaTail next count c = .ok (es, c') ∧
      es.map Expr.erase = phrases.map (·.2.erase) := by
  induction form generalizing c count with
  | nil =>
    obtain rfl := took.eq_of_nil
    obtain ⟨count, rfl⟩ : ∃ m, count = m + 1 := ⟨count - 1, by omega⟩
    refine ⟨[], ?_, rfl⟩
    rw [commaTail, acceptSymbol_bind, if_neg other]
    rfl
  | @cons phrase phrases gap ks gaps behind ih =>
    obtain ⟨count, rfl⟩ : ∃ m, count = m + 1 := ⟨count - 1, by simp at room; omega⟩
    have here := took.head
    obtain ⟨c₁, tookItem, tookTail⟩ :=
      ((List.append_assoc gap phrase.1 ks).symm ▸ took.tail nofun).split
    have next₁ : follow c₁.current.kind := by
      cases behind with
      | nil =>
        obtain rfl := tookTail.eq_of_nil
        exact stop
      | cons => exact tookTail.head ▸ comma
    obtain ⟨e, run, same⟩ := items phrase List.mem_cons_self gap gaps tookItem next₁
    obtain ⟨es, runTail, sameTail⟩ := ih (fun q mem => items q (List.mem_cons_of_mem _ mem))
      (by simp at room; omega) tookTail
    refine ⟨e :: es, ?_, by rw [List.map_cons, List.map_cons, same, sameTail]⟩
    rw [commaTail, acceptSymbol_bind, if_pos here, if_pos rfl, bind_run run, bind_run runTail]
    rfl

theorem length_le_behindCommas {separators : Bool} {phrases : List Phrase} {ks : List Kind}
    (form : BehindCommas separators phrases ks) : phrases.length ≤ ks.length := by
  induction form with
  | nil => exact Nat.le_refl 0
  | cons phrase _ _ ih =>
    simp only [List.length_cons, List.length_append]
    omega

theorem callArgs_run {sub : Level → Parser Expr} {fuel : Nat} {phrases : List Phrase}
    {ks : List Kind} (form : Parenthesised phrases ks) (comma : follow (.symbol .comma))
    (paren : follow (.symbol .rightParen))
    (items : ∀ phrase ∈ phrases, Takes (sub .assignment) follow phrase)
    (room : phrases.length ≤ fuel) (took : c.Took ks c') :
    ∃ es, callArgs sub fuel c = .ok (es, c') ∧ es.map Expr.erase = phrases.map (·.2.erase) := by
  cases form with
  | nil =>
    have tookClose := took.tail nofun
    obtain rfl := (tookClose.tail nofun).eq_of_nil
    refine ⟨[], ?_, rfl⟩
    rw [callArgs, advance_bind, acceptSymbol_bind, if_pos tookClose.head]
    rfl
  | @cons phrase phrases ks behind =>
    have first := items phrase List.mem_cons_self
    have tookInner := took.tail nofun
    obtain ⟨c₁, tookFirst, tookRest⟩ := tookInner.split
    obtain ⟨c₂, tookTail, tookClose⟩ := tookRest.split
    have close := tookClose.head
    obtain rfl := (tookClose.tail nofun).eq_of_nil
    have next₁ : follow c₁.current.kind := by
      cases behind with
      | nil =>
        obtain rfl := tookTail.eq_of_nil
        exact close ▸ paren
      | cons => exact tookTail.head ▸ comma
    obtain ⟨e, run, same⟩ := first.run tookFirst next₁
    obtain ⟨es, runTail, sameTail⟩ := commaTail_run behind comma
      (fun q mem => (items q (List.mem_cons_of_mem _ mem)).separated)
      (Nat.lt_of_succ_le room) tookTail (close ▸ paren) (by simp [close])
    have other : c.advance.2.current.kind ≠ .symbol .rightParen := by
      intro same
      have starts := first.starts tookInner
      rw [same] at starts
      cases starts
    refine ⟨e :: es, ?_, by rw [List.map_cons, List.map_cons, same, sameTail]⟩
    rw [callArgs, advance_bind, acceptSymbol_bind, if_neg other]
    change (sub .assignment >>= _) _ = _
    rw [bind_run run, bind_run runTail, bind_run (expectSymbol_run _ close)]
    rfl

end Takes

def phrasesOf (args : List Expr) : List Phrase :=
  args.map fun e => (e.written, e)

private theorem behindCommas_writtenTail (es : List Expr) :
    BehindCommas true (phrasesOf es) (Expr.writtenTail es) := by
  induction es with
  | nil => exact .nil
  | cons e es ih =>
    have noGap : ∀ k ∈ ([] : List Kind), true = true ∧ k = .separator := by simp
    exact .cons (e.written, e) noGap ih

private theorem parenthesised_writtenList (args : List Expr) :
    Parenthesised (phrasesOf args) (grouped (Expr.writtenList args)) := by
  cases args with
  | nil => exact .nil
  | cons e es =>
    rw [grouped, Expr.writtenList, List.append_assoc]
    exact .cons (e.written, e) (behindCommas_writtenTail es)

private theorem length_le_writtenTail (es : List Expr) :
    es.length ≤ (Expr.writtenTail es).length := by
  simpa [phrasesOf] using length_le_behindCommas (behindCommas_writtenTail es)

private theorem gives_call {fuel : Nat} (text : String) {args : List Expr}
    (all : ∀ e ∈ args, Gives fuel .assignment e.written Closing e)
    (heads : ∀ e ∈ args, ∃ k ks, e.written = k :: ks ∧ k.startsExpression = true)
    (room : (Expr.writtenList args).length ≤ fuel) (place : Location) :
    Gives (fuel + 1) .primary (.word text :: grouped (Expr.writtenList args)) Closing
      (.call text args place) := by
  apply gives_of_atLevel
  intro n enough c c' took _
  have tookArgs := took.tail nofun
  have items : ∀ phrase ∈ phrasesOf args, Takes (level n .assignment) Closing phrase := by
    intro phrase mem
    obtain ⟨e, inside, rfl⟩ := List.mem_map.mp mem
    exact ⟨heads e inside, fun c c' took next => all e inside n enough took next⟩
  have few : (phrasesOf args).length ≤ n := by
    rw [phrasesOf, List.length_map]
    cases args with
    | nil => exact Nat.zero_le n
    | cons e es =>
      obtain ⟨k, ks, first, -⟩ := heads e List.mem_cons_self
      have tail := length_le_writtenTail es
      rw [Expr.writtenList, first] at room
      simp only [List.length_append, List.length_cons] at room ⊢
      omega
  obtain ⟨args', run, same⟩ := callArgs_run (parenthesised_writtenList args)
    (by simp [Closing, closings]) (by simp [Closing, closings]) items few tookArgs
  have erased : args'.map Expr.erase = args.map Expr.erase := by
    rw [same, phrasesOf, List.map_map]
    rfl
  refine ⟨.call text args' c.location, ?_, by rw [Expr.erase_call, Expr.erase_call, erased]⟩
  rw [atLevel, primary, location_bind, kind_bind, took.head]
  simp only [name]
  rw [advance_bind, atSymbol_bind, if_pos (Cursor.check_symbol.mpr tookArgs.head), bind_run run]
  rfl

end Parser

open PatternAction.Parser

private theorem Expr.Formed.written_head {e : Expr} (formed : e.Formed) :
    ∃ k ks, e.written = k :: ks ∧ k.startsExpression = true := by
  cases formed with
  | const _ | pattern _ | var _ | elem _ _ | call _ _ => exact ⟨_, _, rfl, rfl⟩
  | binary _ _ _ | ternary _ _ _ | plain _ _ | compound _ _ _ _ => exact ⟨_, _, rfl, rfl⟩
  | unary mem _ =>
    simp only [List.mem_cons, List.not_mem_nil, or_false] at mem
    rcases mem with rfl | rfl | rfl | rfl
    all_goals exact ⟨_, _, rfl, rfl⟩
  | step mem _ _ =>
    simp only [List.mem_cons, List.not_mem_nil, or_false] at mem
    rcases mem with rfl | rfl | rfl | rfl
    all_goals exact ⟨_, _, rfl, rfl⟩

private theorem length_written_le_writtenTail {e : Expr} {es : List Expr} (mem : e ∈ es) :
    e.written.length ≤ (Expr.writtenTail es).length := by
  induction es with
  | nil => cases mem
  | cons a es ih =>
    rw [Expr.writtenTail]
    simp only [List.length_cons, List.length_append]
    rcases List.mem_cons.mp mem with rfl | mem
    · omega
    · have tail := ih mem
      omega

private theorem length_written_le_writtenList {e : Expr} {es : List Expr} (mem : e ∈ es) :
    e.written.length ≤ (Expr.writtenList es).length := by
  cases es with
  | nil => cases mem
  | cons a es =>
    rw [Expr.writtenList, List.length_append]
    rcases List.mem_cons.mp mem with rfl | mem
    · omega
    · have tail := length_written_le_writtenTail mem
      omega

private theorem assignKinds_eq {op : Operator}
    (mem : op ∈ [Operator.add, .subtract, .multiply, .divide, .modulo, .exponent]) :
    ∃ k, op.assignKinds = [k] ∧ assignForm? k = some (.compound op) := by
  simp only [List.mem_cons, List.not_mem_nil, or_false] at mem
  rcases mem with rfl | rfl | rfl | rfl | rfl | rfl
  all_goals exact ⟨_, rfl, rfl⟩

private theorem Expr.Formed.gives {e : Expr} (formed : e.Formed) :
    Gives (16 * e.written.length) .assignment e.written Closing e := by
  induction formed with
  | const text => exact ((gives_const text).loosest (by omega)).mono (by simp [Expr.written])
  | @pattern text _ =>
    exact ((gives_pattern text).loosest (by omega)).mono (by simp [Expr.written])
  | @var name l _ => exact ((gives_var name l).loosest (by omega)).mono (by simp [Expr.written])
  | @elem name index l _ _ ih =>
    refine ((gives_elem name ih l).loosest (by omega)).mono ?_
    simp only [Expr.written, List.length_cons, List.length_append]
    omega
  | @unary op operand l mem _ ih =>
    refine ((gives_unary mem ih l).loosest (by omega)).mono ?_
    simp only [Expr.written, grouped, List.length_cons, List.length_append]
    omega
  | @binary op left right l binary _ _ ihLeft ihRight =>
    generalize total : left.written.length + right.written.length = n
    have hleft : Gives (16 * n) .assignment left.written Closing left := ihLeft.mono (by omega)
    have hright : Gives (16 * n) .assignment right.written Closing right := ihRight.mono (by omega)
    refine (gives_binary binary hleft hright l).mono ?_
    simp only [Expr.written, grouped, List.length_cons, List.length_append]
    omega
  | @ternary c a b l _ _ _ ihCondition ihTrue ihFalse =>
    generalize total : c.written.length + a.written.length + b.written.length = n
    have hcondition : Gives (16 * n) .assignment c.written Closing c := ihCondition.mono (by omega)
    have htrue : Gives (16 * n) .assignment a.written Closing a := ihTrue.mono (by omega)
    have hfalse : Gives (16 * n) .assignment b.written Closing b := ihFalse.mono (by omega)
    refine ((gives_ternary hcondition htrue hfalse l).loosest (by omega)).mono ?_
    simp only [Expr.written, grouped, List.length_cons, List.length_append]
    omega
  | @call name args l _ formed ih =>
    have all : ∀ e ∈ args,
        Gives (16 * (Expr.writtenList args).length) .assignment e.written Closing e := by
      intro e mem
      have fits := length_written_le_writtenList mem
      exact (ih e mem).mono (by omega)
    have call := gives_call name all (fun e mem => (formed e mem).written_head) (by omega) l
    refine (call.loosest (by omega)).mono ?_
    simp only [Expr.written, grouped, List.length_cons, List.length_append]
    omega
  | @plain target value l _ _ ihTarget ihValue =>
    generalize total : target.written.length + value.written.length = n
    have htarget : Gives (16 * n) .assignment target.written Closing target :=
      ihTarget.mono (by omega)
    have hvalue : Gives (16 * n) .assignment value.written Closing value := ihValue.mono (by omega)
    have sign : assignForm? (.symbol .assign) = some .plain := rfl
    refine (gives_assign sign htarget hvalue rfl l l).mono ?_
    simp only [Expr.written, grouped, List.length_cons, List.length_append]
    omega
  | @compound op target target' value l l' mem same _ _ ihTarget ihValue =>
    obtain ⟨k, kinds, sign⟩ := assignKinds_eq mem
    generalize total : target.written.length + value.written.length = n
    have htarget : Gives (16 * n) .assignment target.written Closing target :=
      ihTarget.mono (by omega)
    have hvalue : Gives (16 * n) .assignment value.written Closing value := ihValue.mono (by omega)
    rw [Expr.written, kinds]
    refine (gives_assign sign htarget hvalue same l l').mono ?_
    simp only [grouped, List.length_cons, List.length_append, List.length_nil]
    omega
  | @step op target target' l l' mem same _ ih =>
    rw [Expr.written]
    split
    · rename_i leading
      have prefixed : op ∈ [Operator.preInc, .preDec] := by
        revert leading mem
        cases op <;> decide
      refine ((gives_leadingStep prefixed ih same l l').loosest (by omega)).mono ?_
      simp only [grouped, List.length_cons, List.length_append]
      omega
    · rename_i leading
      have suffixed : op ∈ [Operator.postInc, .postDec] := by
        revert leading mem
        cases op <;> decide
      refine ((gives_trailingStep suffixed ih same l l').loosest (by omega)).mono ?_
      simp only [grouped, List.length_cons, List.length_append]
      omega

private theorem Cursor.ofTokens_append_eof (ts : List Token) (l : Location) :
    (ofTokens (ts ++ [⟨.eof, l⟩])).passed = [] ∧
      (ofTokens (ts ++ [⟨.eof, l⟩])).rest = ts ++ [⟨.eof, l⟩] := by
  have whole : complete (ts ++ [⟨.eof, l⟩]) = ts ++ [⟨.eof, l⟩] := by simp [complete]
  unfold ofTokens
  rw [whole]
  cases ts with
  | nil => exact ⟨rfl, rfl⟩
  | cons t ts => exact ⟨rfl, rfl⟩

/-- Written out and read again, an expression comes back the same but for its places: its text
tokenizes, and its parser takes all tokens up to the end and returns it. -/
theorem Expr.Formed.parse_source {e : Expr} (formed : e.Formed) :
    ∃ tokens e' c', Token.tokenize e.source = .ok tokens ∧
      Parser.expr (Cursor.ofTokens tokens) = .ok (e', c') ∧ e'.erase = e.erase ∧
      c'.toList = tokens ∧ c'.current.kind = .eof ∧ c'.ahead = [] := by
  obtain ⟨ts, kinds, l, read⟩ := formed.tokenize_source
  obtain ⟨passed, rest⟩ := Cursor.ofTokens_append_eof ts l
  refine ⟨ts ++ [⟨.eof, l⟩], ?_⟩
  generalize Cursor.ofTokens (ts ++ [⟨.eof, l⟩]) = c at passed rest ⊢
  have took : c.Took e.written ⟨ts.reverse, ⟨.eof, l⟩, []⟩ :=
    ⟨ts, ⟨by simp [passed], rest⟩, kinds⟩
  have enough : 16 * e.written.length ≤ exprFuel c := by
    have length := congrArg List.length rest
    have same := congrArg List.length kinds
    simp only [Cursor.rest, List.length_cons, List.length_append, List.length_map] at length same
    simp only [exprFuel, Cursor.remaining]
    omega
  obtain ⟨e', run, same⟩ := formed.gives (exprFuel c) enough took (by simp [Closing, closings])
  exact ⟨e', _, read, run, same, by simp [Cursor.toList], rfl, rfl⟩

/-- An assignment by an operator to an element, of a condition over a sign, a step, a call and a
membership. -/
theorem Expr.Formed.parse_source_power :
    let element : Expr := .elem "a" (.var "i" .start) .start
    let x : Expr := .var "x" .start
    let step : Expr := .assign .step x (.unary .postInc x .start) .start
    let call : Expr := .call "f" [.const "\\\"", .pattern "p+"] .start
    let member : Expr := .binary .in (.unary .dollar (.const "1") .start) (.var "z" .start) .start
    let value : Expr := .ternary (.unary .unaryNeg step .start) call member .start
    let e : Expr := .assign (.compound .exponent) element
      (.binary .exponent element value .start) .start
    e.source = "(a[i])^=((-((x)++))?(f(\"\\\\\\\"\",`p+`)):(($(\"1\"))in(z)))" ∧
      ∃ tokens e' c', Token.tokenize e.source = .ok tokens ∧
        Parser.expr (Cursor.ofTokens tokens) = .ok (e', c') ∧ e'.erase = e.erase ∧
        c'.toList = tokens ∧ c'.current.kind = .eof ∧ c'.ahead = [] := by
  intro element x step call member value e
  have isName : ∀ text ∈ ["a", "i", "x", "f", "z"], IsName text := by
    intro text mem
    simp only [List.mem_cons, List.not_mem_nil, or_false] at mem
    rw [isName_iff]
    rcases mem with rfl | rfl | rfl | rfl | rfl
    all_goals exact .plain (by decide) (by simp) fun k => by cases k <;> decide
  have call : call.Formed := by
    refine .call (isName _ (by simp))
      (List.forall_mem_cons.mpr ⟨.const _, List.forall_mem_cons.mpr ⟨?_, by simp⟩⟩)
    exact .pattern (by decide)
  have member : member.Formed :=
    .binary rfl (.unary (by decide) (.const _)) (.var (isName _ (by simp)))
  have step : step.Formed := .step (by decide) rfl (.var (isName _ (by simp)))
  have value : value.Formed := .ternary (.unary (by decide) step) call member
  have formed : e.Formed := .compound (by decide) rfl
    (.elem (isName _ (by simp)) (.var (isName _ (by simp)))) value
  exact ⟨by decide, formed.parse_source⟩

end PatternAction
