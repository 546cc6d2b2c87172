import PatternAction.Proofs.Script.Grammar
import PatternAction.Proofs.Script.Reading

/-!
The parser of expressions builds only what the grammar derives.  Each parser is related to what it
takes: if the parsers of the levels it uses take derivations of their levels, it takes a
derivation of its own level.  The main statement is that the tokens between the places before and
after a successful expression, all of them and in order, derive the tree that was returned.
-/

set_option autoImplicit false
set_option relaxedAutoImplicit false

namespace PatternAction

open Token (Kind)
open Grammar

namespace Cursor

/-- The tokens between two places in one sequence. -/
def between (c c' : Cursor) : List Token :=
  (c.toList.take c'.position).drop c.position

theorem Moved.toList {c c' : Cursor} {used : List Token} (h : c.Moved used c') :
    c'.toList = c.toList := by
  change c'.passed.reverse ++ c'.rest = c.passed.reverse ++ c.rest
  rw [h.passed, h.rest]
  simp

theorem Moved.position {c c' : Cursor} {used : List Token} (h : c.Moved used c') :
    c'.position = c.position + used.length := by
  rw [Cursor.position, h.passed, Cursor.position, List.length_append, List.length_reverse,
    Nat.add_comm]

theorem Moved.between {c c' : Cursor} {used : List Token} (h : c.Moved used c') :
    c.between c' = used := by
  have whole : c.toList = c.passed.reverse ++ (used ++ c'.rest) :=
    congrArg (c.passed.reverse ++ ·) h.rest
  have front : c.position = c.passed.reverse.length := by simp [Cursor.position]
  rw [Cursor.between, h.position, whole, front, List.take_length_add_append,
    List.drop_left, List.take_left]

theorem complete_ends (tokens : List Token) :
    ∃ front t, complete tokens = front ++ [t] ∧ t.kind = .eof := by
  unfold complete
  split
  · exact ⟨[], _, rfl, rfl⟩
  · rename_i last h
    split
    · rename_i eof
      obtain ⟨front, rfl⟩ := List.getLast?_eq_some_iff.mp h
      exact ⟨front, last, rfl, eof⟩
    · exact ⟨tokens, _, rfl, rfl⟩

theorem toList_ofTokens (tokens : List Token) : (ofTokens tokens).toList = complete tokens := by
  obtain ⟨front, t, split, -⟩ := complete_ends tokens
  unfold ofTokens
  cases h : complete tokens with
  | nil => simp [split] at h
  | cons t ts => rfl

/-- A place in a sequence that ends with `eof` has that end in front of it. -/
theorem ended_of_toList {tokens : List Token} {c : Cursor} (h : c.toList = complete tokens) :
    c.Ended := by
  obtain ⟨front, t, split, eof⟩ := complete_ends tokens
  have whole : c.passed.reverse ++ c.rest = front ++ [t] := h.trans split
  exact ended_of_append whole eof

end Cursor

namespace Parser

variable {α : Type}

/-! ## Levels -/

/-- Whenever the parser succeeds, it has taken tokens whose kinds are related to its answer. -/
def Reads (p : Parser α) (R : List Kind → α → Prop) : Prop :=
  ∀ ⦃c c' : Cursor⦄ ⦃a : α⦄, c.Ended → p c = .ok (a, c') → ∃ ks, c.Took ks c' ∧ R ks a

private theorem Reads.required {p : Parser α} {R : List Kind → α → Prop} (h : Reads p R) :
    Reads (required p) R :=
  fun _ _ _ ended run => h ended (required_ok run)

/-- The trees are those of phrases that derive them, and the phrases are written as `form` says. -/
def Listed (form : List Phrase → List Kind → Prop) (ks : List Kind) (es : List Expr) : Prop :=
  ∃ phrases : List Phrase, es = phrases.map Prod.snd ∧
    (∀ phrase ∈ phrases, Derives .assignment phrase.1 phrase.2) ∧ form phrases ks

section Levels

variable {sub : Level → Parser Expr} (hsub : ∀ level, Reads (sub level) (Derives level))
include hsub

private theorem assignment_reads : Reads (assignment sub) (Derives .assignment) := by
  intro c c' e ended run
  obtain ⟨target, c₁, runTarget, run⟩ := bind_ok run
  obtain ⟨ts, tookTarget, derivesTarget⟩ := hsub .ternary ended runTarget
  have ended₁ := tookTarget.ended ended
  rw [location_bind, kind_bind] at run
  cases form : assignForm? c₁.current.kind with
  | none =>
    simp only [form] at run
    obtain ⟨rfl, rfl⟩ := pure_ok run
    exact ⟨ts, tookTarget, .tighter derivesTarget⟩
  | some f =>
    simp only [form] at run
    rw [advance_bind] at run
    obtain ⟨value, c₂, runValue, run⟩ := bind_ok run
    rcases assignForm?_cases form with ⟨rfl, sign⟩ | ⟨s, op, rfl, sign, mem⟩
    · have tookSign := Cursor.took_advance ended₁ sign (by simp)
      obtain ⟨vs, tookValue, derivesValue⟩ :=
        (hsub .assignment).required (tookSign.ended ended₁) runValue
      obtain ⟨rfl, rfl⟩ := pure_ok run
      exact ⟨_, tookTarget.trans (tookSign.trans tookValue), .assign derivesTarget derivesValue⟩
    · have tookSign := Cursor.took_advance ended₁ sign (by simp)
      obtain ⟨vs, tookValue, derivesValue⟩ :=
        (hsub .assignment).required (tookSign.ended ended₁) runValue
      obtain ⟨rfl, rfl⟩ := pure_ok run
      exact ⟨_, tookTarget.trans (tookSign.trans tookValue),
        .compound mem derivesTarget derivesValue⟩

private theorem ternary_reads : Reads (ternary sub) (Derives .ternary) := by
  intro c c' e ended run
  obtain ⟨condition, c₁, runCondition, run⟩ := bind_ok run
  obtain ⟨cs, tookCondition, derivesCondition⟩ := hsub (.chain .or) ended runCondition
  have ended₁ := tookCondition.ended ended
  rw [location_bind, acceptSymbol_bind] at run
  split at run
  · rename_i question
    have tookQuestion := Cursor.took_advance ended₁ question (by simp)
    have ended₂ := tookQuestion.ended ended₁
    simp only [if_true] at run
    obtain ⟨a, c₂, runTrue, run⟩ := bind_ok run
    obtain ⟨as, tookTrue, derivesTrue⟩ := (hsub .ternary).required ended₂ runTrue
    have ended₃ := tookTrue.ended ended₂
    obtain ⟨_, c₃, runColon, run⟩ := bind_ok run
    obtain ⟨colon, rfl⟩ := expectSymbol_ok runColon
    have tookColon := Cursor.took_advance ended₃ colon (by simp)
    obtain ⟨b, c₄, runFalse, run⟩ := bind_ok run
    obtain ⟨bs, tookFalse, derivesFalse⟩ :=
      (hsub .ternary).required (tookColon.ended ended₃) runFalse
    obtain ⟨rfl, rfl⟩ := pure_ok run
    exact ⟨_, tookCondition.trans (tookQuestion.trans (tookTrue.trans (tookColon.trans tookFalse))),
      .ternary derivesCondition derivesTrue derivesFalse⟩
  · obtain ⟨rfl, rfl⟩ := pure_ok run
    exact ⟨cs, tookCondition, .tighter derivesCondition⟩

omit hsub in
private theorem chainTail_reads {chain : Chain} {operand : Parser Expr}
    (hoperand : Reads operand (Derives (tighter (.chain chain)))) (fuel : Nat) {start : Cursor}
    (ended : start.Ended) {left : Expr} {ls : List Kind} {c c' : Cursor} {e : Expr}
    (took : start.Took ls c) (derives : Derives (.chain chain) ls left)
    (run : chainTail chain.operator? operand fuel left c = .ok (e, c')) :
    ∃ ks, start.Took ks c' ∧ Derives (.chain chain) ks e := by
  induction fuel generalizing left ls c with
  | zero => cases run
  | succ fuel ih =>
    rw [chainTail, kind_bind] at run
    cases sign : chain.operator? c.current.kind with
    | none =>
      simp only [sign] at run
      obtain ⟨rfl, rfl⟩ := pure_ok run
      exact ⟨ls, took, derives⟩
    | some op =>
      simp only [sign] at run
      rw [location_bind, advance_bind] at run
      obtain ⟨mem, more⟩ := operator?_mem sign
      have endedLeft := took.ended ended
      have tookSign := Cursor.took_advance endedLeft rfl more
      obtain ⟨right, c₁, runRight, run⟩ := bind_ok run
      obtain ⟨rs, tookRight, derivesRight⟩ :=
        hoperand.required (tookSign.ended endedLeft) runRight
      exact ih (took.trans (tookSign.trans tookRight)) (.chain mem derives derivesRight) run

private theorem concatenation_reads : Reads (concatenation sub) (Derives .concatenation) := by
  intro c c' e ended run
  obtain ⟨left, c₁, runLeft, run⟩ := bind_ok run
  obtain ⟨ls, tookLeft, derivesLeft⟩ := hsub (.chain .additive) ended runLeft
  rw [kind_bind] at run
  split at run
  · rename_i next
    rw [location_bind] at run
    obtain ⟨right, c₂, runRight, run⟩ := bind_ok run
    obtain ⟨rs, tookRight, derivesRight⟩ := hsub .concatenation (tookLeft.ended ended) runRight
    obtain ⟨rfl, rfl⟩ := pure_ok run
    cases rs with
    | nil => exact absurd rfl derivesRight.ne_nil
    | cons k rs =>
      have joined : Joins k := tookRight.head ▸ joins_of_eq_true next
      exact ⟨_, tookLeft.trans tookRight, .concatenation derivesLeft derivesRight joined⟩
  · obtain ⟨rfl, rfl⟩ := pure_ok run
    exact ⟨ls, tookLeft, .tighter derivesLeft⟩

private theorem exponent_reads : Reads (exponent sub) (Derives .exponent) := by
  intro c c' e ended run
  obtain ⟨left, c₁, runLeft, run⟩ := bind_ok run
  obtain ⟨ls, tookLeft, derivesLeft⟩ := hsub .step ended runLeft
  have ended₁ := tookLeft.ended ended
  rw [location_bind, acceptSymbol_bind] at run
  split at run
  · rename_i caret
    have tookCaret := Cursor.took_advance ended₁ caret (by simp)
    simp only [if_true] at run
    obtain ⟨right, c₂, runRight, run⟩ := bind_ok run
    obtain ⟨rs, tookRight, derivesRight⟩ :=
      (hsub .exponent).required (tookCaret.ended ended₁) runRight
    obtain ⟨rfl, rfl⟩ := pure_ok run
    exact ⟨_, tookLeft.trans (tookCaret.trans tookRight), .exponent derivesLeft derivesRight⟩
  · obtain ⟨rfl, rfl⟩ := pure_ok run
    exact ⟨ls, tookLeft, .tighter derivesLeft⟩

private theorem step_reads : Reads (step sub) (Derives .step) := by
  intro c c' e ended run
  obtain ⟨operand, c₁, runOperand, run⟩ := bind_ok run
  obtain ⟨ks, tookOperand, derivesOperand⟩ := hsub .primary ended runOperand
  rw [location_bind, kind_bind] at run
  cases sign : trailingStep? c₁.current.kind with
  | none =>
    simp only [sign] at run
    obtain ⟨rfl, rfl⟩ := pure_ok run
    exact ⟨ks, tookOperand, .tighter derivesOperand⟩
  | some op =>
    simp only [sign] at run
    rw [advance_bind] at run
    obtain ⟨s, kind, mem⟩ := trailingStep?_mem sign
    have tookSign := Cursor.took_advance (tookOperand.ended ended) kind (by simp)
    obtain ⟨rfl, rfl⟩ := pure_ok run
    exact ⟨_, tookOperand.trans tookSign, .trailingStep mem derivesOperand⟩

/-! ## Arguments -/

omit hsub in
private theorem commaTail_reads {separators : Bool} {next : Parser Expr}
    (hnext : Reads next fun ks e => ∃ gap js, ks = gap ++ js ∧
      (∀ k ∈ gap, separators = true ∧ k = .separator) ∧ Derives .assignment js e) (fuel : Nat) :
    Reads (commaTail next fuel) (Listed (BehindCommas separators)) := by
  induction fuel with
  | zero =>
    intro c c' es _ run
    cases run
  | succ fuel ih =>
    intro c c' es ended run
    rw [commaTail, acceptSymbol_bind] at run
    split at run
    · rename_i comma
      have tookComma := Cursor.took_advance ended comma (by simp)
      have ended₁ := tookComma.ended ended
      simp only [if_true] at run
      obtain ⟨e, c₁, runNext, run⟩ := bind_ok run
      obtain ⟨_, tookNext, gap, js, rfl, isGap, derives⟩ := hnext ended₁ runNext
      obtain ⟨es', c₂, runTail, run⟩ := bind_ok run
      obtain ⟨ks, tookTail, phrases, rfl, all, behind⟩ := ih (tookNext.ended ended₁) runTail
      obtain ⟨rfl, rfl⟩ := pure_ok run
      refine ⟨_, tookComma.trans (tookNext.trans tookTail), (js, e) :: phrases, rfl, ?_, ?_⟩
      · exact List.forall_mem_cons.mpr ⟨derives, all⟩
      · simpa using BehindCommas.cons (js, e) isGap behind
    · obtain ⟨rfl, rfl⟩ := pure_ok run
      exact ⟨[], .refl c, [], rfl, by simp, .nil⟩

private theorem callArgs_reads (fuel : Nat) {c c' : Cursor} {es : List Expr} (ended : c.Ended)
    (paren : c.current.kind = .symbol .leftParen) (run : callArgs sub fuel c = .ok (es, c')) :
    ∃ ks, c.Took ks c' ∧ Listed Parenthesised ks es := by
  have tookOpen := Cursor.took_advance ended paren (by simp)
  have ended₁ := tookOpen.ended ended
  rw [callArgs, advance_bind, acceptSymbol_bind] at run
  split at run
  · rename_i close
    have tookClose := Cursor.took_advance ended₁ close (by simp)
    obtain ⟨rfl, rfl⟩ := pure_ok run
    exact ⟨_, tookOpen.trans tookClose, [], rfl, by simp, .nil⟩
  · obtain ⟨first, c₁, runFirst, run⟩ := bind_ok run
    obtain ⟨js, tookFirst, derives⟩ := hsub .assignment ended₁ runFirst
    have ended₂ := tookFirst.ended ended₁
    obtain ⟨rest, c₂, runRest, run⟩ := bind_ok run
    have next : Reads (do skipSeparators; sub .assignment) fun ks e => ∃ gap js, ks = gap ++ js ∧
        (∀ k ∈ gap, true = true ∧ k = .separator) ∧ Derives .assignment js e := by
      intro a b e endedA runNext
      obtain ⟨gap, isGap, tookGap⟩ := Cursor.took_skipSeparators a
      rw [skipSeparators_bind] at runNext
      obtain ⟨js, tookItem, derivesItem⟩ := hsub .assignment (tookGap.ended endedA) runNext
      exact ⟨gap ++ js, tookGap.trans tookItem, gap, js, rfl, fun k mem => ⟨rfl, isGap k mem⟩,
        derivesItem⟩
    obtain ⟨ks, tookRest, phrases, rfl, all, behind⟩ := commaTail_reads next fuel ended₂ runRest
    have ended₃ := tookRest.ended ended₂
    obtain ⟨_, c₃, runClose, run⟩ := bind_ok run
    obtain ⟨close, rfl⟩ := expectSymbol_ok runClose
    have tookClose := Cursor.took_advance ended₃ close (by simp)
    obtain ⟨rfl, rfl⟩ := pure_ok run
    refine ⟨_, tookOpen.trans (tookFirst.trans (tookRest.trans tookClose)), (js, first) :: phrases,
      rfl, ?_, .cons (js, first) behind⟩
    exact List.forall_mem_cons.mpr ⟨derives, all⟩

private theorem bareArgs_reads (fuel : Nat) : Reads (bareArgs sub fuel) (Listed Bare) := by
  intro c c' es ended run
  rw [bareArgs, kind_bind] at run
  split at run
  · obtain ⟨rfl, rfl⟩ := pure_ok run
    exact ⟨[], .refl c, [], rfl, by simp, .nil⟩
  · obtain ⟨first, c₁, runFirst, run⟩ := bind_ok run
    obtain ⟨js, tookFirst, derives⟩ := hsub .assignment ended runFirst
    obtain ⟨rest, c₂, runRest, run⟩ := bind_ok run
    have next : Reads (required (sub .assignment)) fun ks e => ∃ gap js, ks = gap ++ js ∧
        (∀ k ∈ gap, false = true ∧ k = .separator) ∧ Derives .assignment js e := by
      intro a b e endedA runNext
      obtain ⟨js, tookItem, derivesItem⟩ := (hsub .assignment).required endedA runNext
      exact ⟨js, tookItem, [], js, rfl, by simp, derivesItem⟩
    obtain ⟨ks, tookRest, phrases, rfl, all, behind⟩ :=
      commaTail_reads next fuel (tookFirst.ended ended) runRest
    obtain ⟨rfl, rfl⟩ := pure_ok run
    refine ⟨_, tookFirst.trans tookRest, (js, first) :: phrases, rfl, ?_, .cons (js, first) behind⟩
    exact List.forall_mem_cons.mpr ⟨derives, all⟩

/-- The attempt at arguments in parentheses leaves nothing behind where it is given up: the bare
arguments are then read from where the attempt began. -/
private theorem printArgs_reads (fuel : Nat) {k : Keyword} (print : k ∈ [Keyword.print, .printf]) :
    Reads (printArgs sub fuel) (Listed (KeywordArguments k)) := by
  have bare : Reads (bareArgs sub fuel) (Listed (KeywordArguments k)) := by
    intro c c' es ended run
    obtain ⟨ks, took, phrases, rfl, all, arguments⟩ := bareArgs_reads hsub fuel ended run
    exact ⟨ks, took, phrases, rfl, all, .bare print arguments⟩
  intro c c' es ended run
  rw [printArgs, atSymbol_bind] at run
  split at run
  · rename_i paren
    obtain ⟨args?, c₁, runWhole, runBehind⟩ := bind_ok run
    rcases wholeStatement?_ok runWhole with ⟨rfl, rfl⟩ | ⟨args, rfl, runArgs⟩
    · exact bare ended runBehind
    · obtain ⟨ks, took, phrases, rfl, all, arguments⟩ :=
        callArgs_reads hsub fuel ended (Cursor.check_symbol.mp paren) runArgs
      obtain ⟨rfl, rfl⟩ := pure_ok runBehind
      refine ⟨ks, took, phrases, rfl, all, .parenthesised ?_ arguments⟩
      exact List.mem_append_left [.getline, .next, .nextfile, .exit] print
  · exact bare ended run

/-! ## Operands -/

omit hsub in
private theorem leading_reads {sign : Symbol} {op : Operator} {operand : Parser Expr} {l : Location}
    {R : List Kind → Expr → Prop} (hoperand : Reads operand R) {c c' : Cursor} {e : Expr}
    (ended : c.Ended) (kind : c.current.kind = .symbol sign)
    (run : leading op operand l c = .ok (e, c')) :
    ∃ ks e', c.Took (.symbol sign :: ks) c' ∧ R ks e' ∧ e = .unary op e' l := by
  have tookSign := Cursor.took_advance ended kind (by simp)
  rw [leading, advance_bind] at run
  obtain ⟨e', c₁, runOperand, run⟩ := bind_ok run
  obtain ⟨ks, took, related⟩ := hoperand.required (tookSign.ended ended) runOperand
  obtain ⟨rfl, rfl⟩ := pure_ok run
  exact ⟨ks, e', tookSign.trans took, related, rfl⟩

private theorem sign_reads {sign : Symbol} {op : Operator} {l : Location} (mem : (sign, op) ∈ signs)
    {c c' : Cursor} {e : Expr} (ended : c.Ended) (kind : c.current.kind = .symbol sign)
    (run : leading op (sub .exponent) l c = .ok (e, c')) :
    ∃ ks, c.Took ks c' ∧ Derives .primary ks e := by
  obtain ⟨ks, e', took, derives, rfl⟩ := leading_reads (hsub .exponent) ended kind run
  exact ⟨_, took, .sign mem derives⟩

private theorem leadingStep_reads {sign : Symbol} {op : Operator} {l : Location}
    (mem : (sign, op) ∈ leadingSteps) {c c' : Cursor} {e : Expr} (ended : c.Ended)
    (kind : c.current.kind = .symbol sign)
    (run : leadingStep op (sub .primary) l c = .ok (e, c')) :
    ∃ ks, c.Took ks c' ∧ Derives .primary ks e := by
  have tookSign := Cursor.took_advance ended kind (by simp)
  rw [leadingStep, advance_bind] at run
  obtain ⟨e', c₁, runOperand, run⟩ := bind_ok run
  obtain ⟨ks, took, derives⟩ := (hsub .primary).required (tookSign.ended ended) runOperand
  obtain ⟨rfl, rfl⟩ := pure_ok run
  exact ⟨_, tookSign.trans took, .leadingStep mem derives⟩

theorem printCall_reads {k : Keyword} (print : k ∈ [Keyword.print, .printf]) {fuel : Nat}
    {l : Location} {c c' : Cursor} {e : Expr} (ended : c.Ended)
    (kind : c.current.kind = .keyword k)
    (run : (do advance; return .call k.spelling (← printArgs sub fuel) l : Parser Expr) c =
      .ok (e, c')) : ∃ ks, c.Took ks c' ∧ Derives .primary ks e := by
  have tookWord := Cursor.took_advance ended kind (by simp)
  rw [advance_bind] at run
  obtain ⟨args, c₁, runArgs, run⟩ := bind_ok run
  obtain ⟨ks, took, phrases, rfl, all, arguments⟩ :=
    printArgs_reads hsub fuel print (tookWord.ended ended) runArgs
  obtain ⟨rfl, rfl⟩ := pure_ok run
  exact ⟨_, tookWord.trans took, .keywordCall all arguments⟩

private theorem callArgs_keyword {k : Keyword}
    (mem : k ∈ [Keyword.print, .printf, .getline, .next, .nextfile, .exit]) {fuel : Nat}
    {l : Location} {c c₁ c' : Cursor} {e : Expr} (took : c.Took [.keyword k] c₁) (ended : c₁.Ended)
    (paren : c₁.check (.symbol .leftParen) = true)
    (run : (do return .call k.spelling (← callArgs sub fuel) l : Parser Expr) c₁ = .ok (e, c')) :
    ∃ ks, c.Took ks c' ∧ Derives .primary ks e := by
  obtain ⟨args, c₂, runArgs, run⟩ := bind_ok run
  obtain ⟨ks, tookArgs, phrases, rfl, all, arguments⟩ :=
    callArgs_reads hsub fuel ended (Cursor.check_symbol.mp paren) runArgs
  obtain ⟨rfl, rfl⟩ := pure_ok run
  exact ⟨_, took.trans tookArgs, .keywordCall all (.parenthesised mem arguments)⟩

private theorem keywordCall_reads {k : Keyword} (mem : k ∈ [Keyword.getline, .next, .nextfile])
    {fuel : Nat} {l : Location} {c c' : Cursor} {e : Expr} (ended : c.Ended)
    (kind : c.current.kind = .keyword k)
    (run : keywordCall k.spelling sub fuel l c = .ok (e, c')) :
    ∃ ks, c.Took ks c' ∧ Derives .primary ks e := by
  have tookWord := Cursor.took_advance ended kind (by simp)
  rw [keywordCall, advance_bind, atSymbol_bind] at run
  split at run
  · rename_i paren
    have called : k ∈ [Keyword.print, .printf, .getline, .next, .nextfile, .exit] := by
      rw [List.mem_cons, List.mem_cons]
      exact .inr (.inr (List.mem_append_left [Keyword.exit] mem))
    exact callArgs_keyword hsub called tookWord (tookWord.ended ended) paren run
  · obtain ⟨rfl, rfl⟩ := pure_ok run
    have alone : KeywordArguments k [] [] := .none (List.mem_append_left [Keyword.exit] mem)
    exact ⟨_, tookWord, @Derives.keywordCall k [] [] l (by simp) alone⟩

private theorem exitCall_reads {fuel : Nat} {l : Location} {c c' : Cursor} {e : Expr}
    (ended : c.Ended)
    (kind : c.current.kind = .keyword .exit) (run : exitCall sub fuel l c = .ok (e, c')) :
    ∃ ks, c.Took ks c' ∧ Derives .primary ks e := by
  have tookWord := Cursor.took_advance ended kind (by simp)
  rw [exitCall, advance_bind, atSymbol_bind] at run
  split at run
  · rename_i paren
    exact callArgs_keyword hsub (by decide) tookWord (tookWord.ended ended) paren run
  · rw [atExpression_bind] at run
    split at run
    · obtain ⟨status, c₁, runStatus, run⟩ := bind_ok run
      obtain ⟨ks, took, derives⟩ := hsub .assignment (tookWord.ended ended) runStatus
      obtain ⟨rfl, rfl⟩ := pure_ok run
      refine ⟨_, tookWord.trans took, ?_⟩
      exact @Derives.keywordCall .exit [(ks, status)] ks l (by simpa using derives)
        (.status (ks, status))
    · obtain ⟨rfl, rfl⟩ := pure_ok run
      have alone : KeywordArguments .exit [] [] := .none (by decide)
      exact ⟨_, tookWord, @Derives.keywordCall .exit [] [] l (by simp) alone⟩

private theorem name_reads {text : String} {fuel : Nat} {l : Location} {c c' : Cursor} {e : Expr}
    (ended : c.Ended) (kind : c.current.kind = .word text)
    (run : name text sub fuel l c = .ok (e, c')) :
    ∃ ks, c.Took ks c' ∧ Derives .primary ks e := by
  have tookName := Cursor.took_advance ended kind (by simp)
  have ended₁ := tookName.ended ended
  rw [name, advance_bind, atSymbol_bind] at run
  split at run
  · rename_i paren
    obtain ⟨args, c₁, runArgs, run⟩ := bind_ok run
    obtain ⟨ks, took, phrases, rfl, all, arguments⟩ :=
      callArgs_reads hsub fuel ended₁ (Cursor.check_symbol.mp paren) runArgs
    obtain ⟨rfl, rfl⟩ := pure_ok run
    exact ⟨_, tookName.trans took, .call all arguments⟩
  · rw [acceptSymbol_bind] at run
    split at run
    · rename_i bracket
      have tookOpen := Cursor.took_advance ended₁ bracket (by simp)
      have ended₂ := tookOpen.ended ended₁
      simp only [if_true] at run
      obtain ⟨index, c₁, runIndex, run⟩ := bind_ok run
      obtain ⟨ks, tookIndex, derives⟩ := hsub .assignment ended₂ runIndex
      obtain ⟨_, c₂, runClose, run⟩ := bind_ok run
      obtain ⟨close, rfl⟩ := expectSymbol_ok runClose
      have tookClose := Cursor.took_advance (tookIndex.ended ended₂) close (by simp)
      obtain ⟨rfl, rfl⟩ := pure_ok run
      exact ⟨_, tookName.trans (tookOpen.trans (tookIndex.trans tookClose)), .elem derives⟩
    · obtain ⟨rfl, rfl⟩ := pure_ok run
      exact ⟨_, tookName, .var⟩

private theorem group_reads {c c' : Cursor} {e : Expr} (ended : c.Ended)
    (kind : c.current.kind = .symbol .leftParen)
    (run : (do
      advance
      let inner ← sub .assignment
      expectSymbol .rightParen .closeParenExpected
      return inner : Parser Expr) c = .ok (e, c')) :
    ∃ ks, c.Took ks c' ∧ Derives .primary ks e := by
  have tookOpen := Cursor.took_advance ended kind (by simp)
  have ended₁ := tookOpen.ended ended
  rw [advance_bind] at run
  obtain ⟨inner, c₁, runInner, run⟩ := bind_ok run
  obtain ⟨ks, tookInner, derives⟩ := hsub .assignment ended₁ runInner
  obtain ⟨_, c₂, runClose, run⟩ := bind_ok run
  obtain ⟨close, rfl⟩ := expectSymbol_ok runClose
  have tookClose := Cursor.took_advance (tookInner.ended ended₁) close (by simp)
  obtain ⟨rfl, rfl⟩ := pure_ok run
  exact ⟨_, tookOpen.trans (tookInner.trans tookClose), .group derives⟩

omit hsub in
private theorem literal_reads {k : Kind} {a e : Expr} (derives : Derives .primary [k] a)
    {c c' : Cursor} (ended : c.Ended) (kind : c.current.kind = k) (more : k ≠ .eof)
    (run : (do advance; return a : Parser Expr) c = .ok (e, c')) :
    ∃ ks, c.Took ks c' ∧ Derives .primary ks e := by
  have took := Cursor.took_advance ended kind more
  rw [advance_bind] at run
  obtain ⟨rfl, rfl⟩ := pure_ok run
  exact ⟨_, took, derives⟩

private theorem primary_reads (fuel : Nat) : Reads (primary sub fuel) (Derives .primary) := by
  intro c c' e ended run
  rw [primary, location_bind, kind_bind] at run
  generalize kind : c.current.kind = k at run
  split at run
  · exact literal_reads (.string _) ended kind (by simp) run
  · exact literal_reads (.number _) ended kind (by simp) run
  · exact literal_reads (.pattern _) ended kind (by simp) run
  · exact name_reads hsub ended kind run
  · exact group_reads hsub ended kind run
  · exact sign_reads hsub (show (Symbol.not, Operator.not) ∈ signs by decide) ended kind run
  · exact sign_reads hsub (show (Symbol.minus, Operator.unaryNeg) ∈ signs by decide) ended kind run
  · exact sign_reads hsub (show (Symbol.plus, Operator.unaryPos) ∈ signs by decide) ended kind run
  · obtain ⟨ks, e', took, derives, rfl⟩ := leading_reads (hsub .primary) ended kind run
    exact ⟨_, took, .field derives⟩
  · exact leadingStep_reads hsub (show (Symbol.increment, Operator.preInc) ∈ leadingSteps by decide)
      ended kind
      run
  · exact leadingStep_reads hsub (show (Symbol.decrement, Operator.preDec) ∈ leadingSteps by decide)
      ended kind
      run
  · exact printCall_reads hsub (k := .print) (by decide) ended kind run
  · exact printCall_reads hsub (k := .printf) (by decide) ended kind run
  · exact keywordCall_reads hsub (k := .getline) (by decide) ended kind run
  · exact keywordCall_reads hsub (k := .next) (by decide) ended kind run
  · exact keywordCall_reads hsub (k := .nextfile) (by decide) ended kind run
  · exact exitCall_reads hsub ended kind run
  · cases run

private theorem atLevel_reads (fuel : Nat) (level : Level) :
    Reads (atLevel sub fuel level) (Derives level) := by
  cases level with
  | assignment => exact assignment_reads hsub
  | ternary => exact ternary_reads hsub
  | chain chain =>
    intro c c' e ended run
    have hoperand := hsub chain.operand
    rw [operand_eq_tighter] at hoperand
    obtain ⟨left, c₁, runLeft, run⟩ := bind_ok run
    rw [operand_eq_tighter] at runLeft run
    obtain ⟨ls, tookLeft, derives⟩ := hoperand ended runLeft
    exact chainTail_reads hoperand fuel ended tookLeft (.tighter derives) run
  | concatenation => exact concatenation_reads hsub
  | exponent => exact exponent_reads hsub
  | step => exact step_reads hsub
  | primary => exact primary_reads hsub fuel

end Levels

theorem level_reads (n : Nat) : ∀ l, Reads (level n l) (Derives l) := by
  induction n with
  | zero =>
    intro l c c' e _ run
    cases run
  | succ n ih => exact atLevel_reads ih n

/-- From any place in any sequence of tokens: the place behind an expression is in the same
sequence and not in front of the first one, and the tokens between the two places, no more and no
fewer, derive the expression at the loosest level. -/
theorem expr_derives {tokens : List Token} {n : Nat} {e : Expr} {c' : Cursor}
    (run : expr ((Cursor.ofTokens tokens).goto n) = .ok (e, c')) :
    c'.toList = Cursor.complete tokens ∧
      ((Cursor.ofTokens tokens).goto n).position ≤ c'.position ∧
      Derives .assignment ((((Cursor.ofTokens tokens).goto n).between c').map (·.kind)) e := by
  have whole : ((Cursor.ofTokens tokens).goto n).toList = Cursor.complete tokens := by
    rw [Cursor.toList_goto, Cursor.toList_ofTokens]
  obtain ⟨_, ⟨used, moved, rfl⟩, derives⟩ :=
    level_reads _ .assignment (Cursor.ended_of_toList whole) run
  refine ⟨moved.toList.trans whole, ?_, ?_⟩
  · rw [moved.position]
    exact Nat.le_add_right _ _
  · rwa [moved.between]

/-- At `print (x) (y), 2` the arguments in parentheses are given up, and the bare ones begin with
`x` joined to `y`. -/
theorem expr_derives_print :
    let tokens := [.keyword .print, .symbol .leftParen, .word "x", .symbol .rightParen,
      .symbol .leftParen, .word "y", .symbol .rightParen, .symbol .comma, .number "2",
      .separator].map fun k => (⟨k, .unknown⟩ : Token)
    ∃ e c', expr ((Cursor.ofTokens tokens).goto 0) = .ok (e, c') ∧ c'.position = 9 ∧
      Derives .assignment ((tokens.take 9).map (·.kind)) e := by
  intro tokens
  have reached : (expr ((Cursor.ofTokens tokens).goto 0)).toOption.map (·.2.position) =
      some 9 := by decide +kernel
  cases run : expr ((Cursor.ofTokens tokens).goto 0) with
  | error halt =>
    rw [run] at reached
    cases reached
  | ok result =>
    obtain ⟨e, c'⟩ := result
    rw [run] at reached
    have position : c'.position = 9 := Option.some.inj reached
    have derives := (expr_derives run).2.2
    rw [Cursor.between, position] at derives
    exact ⟨e, c', rfl, position, derives⟩

end Parser

end PatternAction
