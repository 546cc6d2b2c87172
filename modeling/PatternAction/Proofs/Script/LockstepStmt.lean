import PatternAction.Proofs.Script.LockstepExpr
import PatternAction.Script.StmtParser

/-!
Statements, blocks, functions and whole scripts in lockstep.  A statement inside a statement, and
each item of a list, lies behind a token of its own, so as much fuel as there are tokens is enough.
The main statement is that on two sequences of tokens of the same kinds the parser of scripts
refuses with the same cause at tokens of the same kind, or builds scripts that are alike.
-/

set_option autoImplicit false
set_option relaxedAutoImplicit false

namespace PatternAction

open Token (Kind)

namespace Parser

variable {among : Token → Prop} {room fuel : Nat}

private theorem lockstep_condition :
    Lockstep among room 0 (Expr.Alike among) condition condition := by
  refine (Lockstep.expectSymbol .leftParen .openParenExpected).andThen fun _ _ _ => ?_
  refine (lockstep_expr room).slack.andThen fun _ _ he => ?_
  exact (Lockstep.expectSymbol .rightParen .closeParenExpected).andThen fun _ _ _ => .pure he

/-! ## Blocks -/

private theorem lockstep_statementsTail {stmt : Parser Stmt} {n : Nat}
    (h : Lockstep among room 1 (Stmt.Alike among) stmt stmt) (enough : room < n) :
    Lockstep among room 0 (Alike.Listed Stmt.unplaced (Stmt.Built among)) (statementsTail stmt n)
      (statementsTail stmt n) := by
  induction n generalizing room with
  | zero => omega
  | succ n ih =>
    refine Lockstep.skipSeparators.andThen fun _ _ _ => ?_
    refine .ifSymbol .rightBrace (fun _ _ => .pure .nil) ?_
    refine Lockstep.more.test (h.within fun _ _ r hs le => ?_) (.fail .braceExpected)
    refine (ih (h.narrow (by omega)) (by omega)).andThen fun _ _ hrest => ?_
    exact .pure (.cons hs hrest)

private theorem lockstep_blockOf {stmt : Parser Stmt}
    (h : Lockstep among room 1 (Stmt.Alike among) stmt stmt) (enough : room ≤ fuel) :
    Lockstep among room 1 (Block.Alike among) (blockOf stmt fuel) (blockOf stmt fuel) := by
  refine Lockstep.skipSeparators.andThen fun _ _ _ => ?_
  refine Lockstep.location.andThen fun l l' hl => .ifSymbol .leftBrace (fun r le => ?_) ?_
  · have inner := lockstep_statementsTail (h.narrow (Nat.le_of_succ_le le)) (n := fuel) (by omega)
    exact inner.andThen fun _ _ hs => .pure (Block.alike_mk hs hl)
  · exact h.bind fun _ _ _ hs _ => .pure (Block.alike_mk (.cons hs .nil) hl)

/-! ## Choices and loops -/

private theorem lockstep_acceptElse : Lockstep among room 0 Eq acceptElse acceptElse := by
  intro c d alike _
  have inner := alike.skipSeparators
  unfold acceptElse Cursor.take?
  rw [← inner.check]
  cases c.skipSeparators.2.check (.keyword .else) with
  | false => exact .ok rfl alike (.refl c)
  | true =>
    have past := (Cursor.past_skipSeparators c).trans (Cursor.past_advance_any inner.ended)
    exact .ok rfl inner.advance past

private theorem lockstep_armsTail {block : Parser Block} {n : Nat}
    (h : Lockstep among room 1 (Block.Alike among) block block) (enough : room < n) :
    Lockstep among room 0 (Arm.AllAlike among) (armsTail block n) (armsTail block n) := by
  induction n generalizing room with
  | zero => omega
  | succ n ih =>
    refine lockstep_acceptElse.test ?_ (.pure Arm.allAlike_nil)
    refine .ifKeyword .if (fun r le => ?_) ?_
    · have inner := h.narrow (Nat.le_of_succ_le le)
      refine lockstep_condition.andThen fun _ _ hc => inner.slack.andThen fun _ _ hb => ?_
      refine (ih inner (by omega)).andThen fun _ _ hrest => ?_
      exact .pure (Arm.allAlike_cons hc hb hrest)
    · exact h.slack.andThen fun _ _ hb => .pure (Arm.allAlike_otherwise hb)

section Loops

variable {block : Parser Block} (hblock : Lockstep among room 1 (Block.Alike among) block block)
variable {l l' : Location} (hl : Placed among l)
include hblock hl

private theorem lockstep_choice (enough : room < fuel) :
    Lockstep among room 0 (Stmt.Alike among) (choice block fuel l) (choice block fuel l') := by
  refine lockstep_condition.andThen fun _ _ hc => hblock.slack.andThen fun _ _ hb => ?_
  refine (lockstep_armsTail hblock enough).andThen fun _ _ harms => ?_
  exact .pure (Stmt.alike_choice hc hb harms hl)

omit hblock hl in
private theorem lockstep_headerPart (stop : Kind) :
    Lockstep among room 0 (Alike.Maybe Expr.unplaced (Expr.Built among)) (headerPart stop)
      (headerPart stop) := by
  refine (Lockstep.check stop).test (.pure .none) ?_
  exact (lockstep_expr room).slack.andThen fun _ _ he => .pure (.some he)

private theorem lockstep_countedFor {init init' : Option Expr}
    (hinit : Alike.Maybe Expr.unplaced (Expr.Built among) init init') :
    Lockstep among room 0 (Stmt.Alike among) (countedFor block init l)
      (countedFor block init' l') := by
  refine Lockstep.expectSeparator.andThen fun _ _ _ => ?_
  refine (lockstep_headerPart .separator).andThen fun _ _ hc => ?_
  refine Lockstep.expectSeparator.andThen fun _ _ _ => ?_
  refine (lockstep_headerPart (.symbol .rightParen)).andThen fun _ _ hupdate => ?_
  refine (Lockstep.expectSymbol .rightParen .closeParenExpected).andThen fun _ _ _ => ?_
  refine hblock.slack.andThen fun _ _ hb => .pure ⟨?_, ?_⟩
  · simp only [Stmt.unplaced, hinit.same, hc.same, hupdate.same, hb.same]
  · exact .for hinit.holds hc.holds hupdate.holds hb.holds.toBare hb.holds.statements hl

omit hblock hl in
private theorem membership?_unplaced (e? : Option Expr) :
    membership? (e?.map Expr.unplaced) = membership? e? := by
  cases e? with
  | none => rfl
  | some e =>
    cases e with
    | binary op a b l =>
      cases op with
      | «in» => cases a <;> cases b <;> rfl
      | _ => rfl
    | _ => rfl

omit hblock hl in
private theorem worded_of_membership? {e? : Option Expr} (h : ∀ e ∈ e?, e.Built among)
    {name array : String} (found : membership? e? = some (name, array)) :
    Worded among name ∧ Worded among array := by
  unfold membership? at found
  split at found
  · obtain ⟨rfl, rfl⟩ := Prod.mk.inj (Option.some.inj found)
    cases h _ rfl with
    | binary _ left right _ =>
      cases left with
      | var hname _ =>
        cases right with
        | var harray _ => exact ⟨hname, harray⟩
  · cases found

private theorem lockstep_forLoop :
    Lockstep among room 0 (Stmt.Alike among) (forLoop block l) (forLoop block l') := by
  refine (Lockstep.expectSymbol .leftParen .openParenExpected).andThen fun _ _ _ => ?_
  refine (lockstep_headerPart .separator).andThen fun init init' hinit => ?_
  have counted : Lockstep among room 0 (Stmt.Alike among) (countedFor block init l)
      (countedFor block init' l') := lockstep_countedFor hblock hl hinit
  have same : membership? init = membership? init' := by
    rw [← membership?_unplaced, hinit.same, membership?_unplaced]
  rw [← same]
  cases found : membership? init with
  | none => exact counted
  | some names =>
    obtain ⟨hname, harray⟩ := worded_of_membership? hinit.holds found
    refine .ifSymbol .rightParen (fun r le => ?_) counted
    refine (hblock.narrow (Nat.le_of_succ_le le)).slack.andThen fun _ _ hb => .pure ⟨?_, ?_⟩
    · simp only [Stmt.unplaced, hb.same]
    · exact .forIn hname harray hb.holds.toBare hb.holds.statements hl

private theorem lockstep_doLoop :
    Lockstep among room 0 (Stmt.Alike among) (doLoop block l) (doLoop block l') := by
  refine hblock.slack.andThen fun body body' hb => ?_
  refine Lockstep.skipSeparators.andThen fun _ _ _ => ?_
  have behind {r : Nat} : Lockstep among r 0 (Stmt.Alike among)
      (do return .doWhile body (← condition) l) (do return .doWhile body' (← condition) l') := by
    refine lockstep_condition.andThen fun _ _ hc => .pure ⟨?_, ?_⟩
    · simp only [Stmt.unplaced, hb.same, hc.same]
    · exact .doWhile hb.holds.toBare hb.holds.statements hc.holds hl
  refine .ifKeyword .while (fun _ _ => behind) ?_
  exact (Lockstep.fail (R := Eq) .whileExpected).andThen fun _ _ _ => behind

omit hblock in
private theorem lockstep_deletion (enough : room ≤ fuel) :
    Lockstep among room 0 (Stmt.Alike among) (deletion fuel l) (deletion fuel l') := by
  refine .word (fun array r harray le => ?_) (.fail .arrayNameExpected)
  refine .ifSymbol .leftBracket (fun r' le' => ?_) (.pure ⟨rfl, .delete harray nofun hl⟩)
  refine (lockstep_expr r').slack.andThen fun _ _ hfirst => ?_
  refine (Lockstep.commaTail (lockstep_expr r') (by omega)).andThen fun _ _ hrest => ?_
  refine (Lockstep.expectSymbol .rightBracket .closeBracketExpected).andThen fun _ _ _ => ?_
  have indices := Alike.cons hfirst hrest
  refine .pure ⟨?_, .delete harray indices.holds hl⟩
  simp only [Stmt.unplaced, indices.same]

end Loops

/-! ## Statements -/

private theorem lockstep_statementWith {block : Parser Block}
    (hblock : ∀ r, r + 1 ≤ room → Lockstep among r 1 (Block.Alike among) block block)
    (enough : room ≤ fuel) :
    Lockstep among room 1 (Stmt.Alike among) (statementWith block fuel)
      (statementWith block fuel) := by
  intro c d alike small
  have hl : Placed among c.location := ⟨c.current, alike.current, rfl⟩
  rw [statementWith, location_bind, location_bind, kind_bind, kind_bind, ← alike.kind]
  generalize kind : c.current.kind = k
  have front {x y : Parser Stmt} (h : LockstepInFront among room 1 (Stmt.Alike among) x y)
      {word : Keyword} (keyword : k = .keyword word) :
      Outcome among (Stmt.Alike among) 1 c (x c) (y d) :=
    h alike small (by simp [kind, keyword])
  split
  · exact front (.advance fun _ _ => .pure ⟨rfl, .continue hl⟩) rfl
  · exact front (.advance fun _ _ => .pure ⟨rfl, .break hl⟩) rfl
  · exact front (.advance fun r le => lockstep_choice (hblock r le) hl (by omega)) rfl
  · exact front (.advance fun r le => lockstep_forLoop (hblock r le) hl) rfl
  · exact front (.advance fun r le => lockstep_deletion hl (by omega)) rfl
  · refine front (.advance fun r le => lockstep_condition.andThen fun _ _ hc => ?_) rfl
    refine (hblock r le).slack.andThen fun _ _ hb => .pure ⟨?_, ?_⟩
    · simp only [Stmt.unplaced, hc.same, hb.same]
    · exact .while hc.holds hb.holds.toBare hb.holds.statements hl
  · exact front (.advance fun r le => lockstep_doLoop (hblock r le) hl) rfl
  · refine front (.advance fun r _ => Lockstep.atExpression.test ?_ ?_) rfl
    · refine (lockstep_expr r).slack.andThen fun _ _ he => ?_
      have value := Alike.some he
      refine .pure ⟨?_, .return value.holds hl⟩
      simp only [Stmt.unplaced, value.same]
    · have value : Alike.Maybe Expr.unplaced (Expr.Built among) none none := .none
      exact .pure ⟨rfl, .return value.holds hl⟩
  · have simple : Lockstep among room 1 (Stmt.Alike among) (do return .expr (← expr))
        (do return .expr (← expr)) := by
      refine (lockstep_expr room).bind fun _ _ _ he _ => .pure ⟨?_, .expr he.holds⟩
      simp only [Stmt.unplaced, he.same]
    exact simple alike small

theorem lockstep_statementAt {n : Nat} (enough : room < n) :
    Lockstep among room 1 (Stmt.Alike among) (statementAt n) (statementAt n) := by
  induction n generalizing room with
  | zero => omega
  | succ n ih =>
    refine lockstep_statementWith (fun r le => ?_) (by omega)
    exact lockstep_blockOf (ih (by omega)) (by omega)

private theorem lockstep_statement : Lockstep among room 1 (Stmt.Alike among) statement statement :=
  .sized (x := fun n => statementAt (n + 1)) (y := fun n => statementAt (n + 1)) fun n =>
    lockstep_statementAt (Nat.lt_succ_self n)

private theorem lockstep_block : Lockstep among room 1 (Block.Alike among) block block :=
  .sized (x := fun n => blockOf statement (n + 1)) (y := fun n => blockOf statement (n + 1))
    fun n => lockstep_blockOf lockstep_statement (Nat.le_succ n)

/-! ## Scripts -/

private theorem lockstep_params {n : Nat} (enough : room < n) :
    Lockstep among room 0 (fun ps ps' => ps = ps' ∧ ∀ p ∈ ps, Worded among p) (params n)
      (params n) := by
  induction n generalizing room with
  | zero => omega
  | succ n ih =>
    refine Lockstep.skipSeparators.andThen fun _ _ _ => ?_
    refine .word (fun text r htext le => ?_) (.fail .functionMalformed)
    refine .ifSymbol .comma (fun r' le' => ?_) (.pure ⟨rfl, ?_⟩)
    · refine (ih (by omega)).andThen fun ps ps' hps => .pure ⟨by rw [hps.1], ?_⟩
      exact List.forall_mem_cons.mpr ⟨htext, hps.2⟩
    · exact List.forall_mem_cons.mpr ⟨htext, nofun⟩

private theorem lockstep_someParams :
    Lockstep among room 0 (fun ps ps' => ps = ps' ∧ ∀ p ∈ ps, Worded among p)
      (do params ((← get).remaining + 1)) (do params ((← get).remaining + 1)) :=
  .sized (x := fun n => params (n + 1)) (y := fun n => params (n + 1)) fun n =>
    lockstep_params (Nat.lt_succ_self n)

private theorem lockstep_function :
    Lockstep among room 1 (Function.Alike among) function function := by
  refine Lockstep.location.andThen fun l l' hl => Lockstep.advance.andThen fun _ _ _ => ?_
  refine .word (fun name r hname le => ?_) (.fail .functionWithoutName)
  refine (Lockstep.expectSymbol .leftParen .functionMalformed).andThen fun _ _ _ => ?_
  have behind {n : Nat} {ps : List String} (hps : ∀ p ∈ ps, Worded among p) :
      Lockstep among n 0 (Function.Alike among)
        (do
          expectSymbol .rightParen .functionMalformed
          return ⟨name, ps, (← block).statements, l⟩)
        (do
          expectSymbol .rightParen .functionMalformed
          return ⟨name, ps, (← block).statements, l'⟩) := by
    refine (Lockstep.expectSymbol .rightParen .functionMalformed).andThen fun _ _ _ => ?_
    refine lockstep_block.slack.andThen fun _ _ hb => .pure ⟨?_, ?_⟩
    · simp only [Function.unplaced, (Block.alike_statements hb).same]
    · exact ⟨hname, hps, hb.holds.statements, hl⟩
  refine (Lockstep.atSymbol .rightParen).test (behind nofun) ?_
  rw [← bind_assoc, ← bind_assoc]
  refine lockstep_someParams.andThen ?_
  rintro ps _ ⟨rfl, hps⟩
  exact behind hps

private theorem lockstep_rule : Lockstep among room 1 (Rule.Alike among) rule rule := by
  refine Lockstep.location.andThen fun l l' hl => ?_
  refine (Lockstep.atSymbol .leftBrace).andThen ?_
  rintro brace _ rfl
  refine Lockstep.kind.andThen ?_
  rintro k _ rfl
  refine .ite ?_ ?_
  · refine lockstep_block.bind fun _ _ _ hb _ => .pure ⟨?_, ?_⟩
    · simp only [Block.unplaced, Stmt.unplacedList_eq_map, (Block.alike_statements hb).same]
    · refine ⟨fun guard none => ?_, hb.holds.statements, hb.holds.location⟩
      exact absurd none (Option.some_ne_none guard).symm
  · refine (lockstep_expr room).bind fun _ _ r hguard _ => ?_
    have guard := Alike.some hguard
    refine (Lockstep.atSymbol .leftBrace).test ?_ ?_
    · refine lockstep_block.slack.andThen fun _ _ hb => .pure ⟨?_, ?_⟩
      · simp only [Block.unplaced, Stmt.unplacedList_eq_map, (Block.alike_statements hb).same,
          guard.same]
      · exact ⟨guard.holds, hb.holds.statements, hl⟩
    · refine .pure ⟨?_, ⟨guard.holds, List.forall_mem_nil _, hl⟩⟩
      simp only [Block.unplaced, guard.same]

private theorem lockstep_item {p p' : Program} (hp : Program.Alike among p p') :
    Lockstep among room 1 (Program.Alike among) (item p) (item p') := by
  obtain ⟨same, built⟩ := hp
  obtain ⟨functions, begins, ends, rules⟩ := Program.mk.inj same
  refine Lockstep.kind.andThen ?_
  rintro k _ rfl
  split
  · refine lockstep_function.bind fun _ _ _ hf _ => .pure ?_
    have all := Alike.concat ⟨functions, built.functions⟩ hf
    refine ⟨?_, { built with functions := all.holds }⟩
    simp only [Program.unplaced, all.same, begins, ends, rules]
  · refine Lockstep.advance.andThen fun _ _ _ => lockstep_block.bind fun _ _ _ hb _ => .pure ?_
    have all := Alike.concat ⟨begins, built.begins⟩ hb
    refine ⟨?_, { built with begins := all.holds }⟩
    simp only [Program.unplaced, all.same, functions, ends, rules]
  · refine Lockstep.advance.andThen fun _ _ _ => lockstep_block.bind fun _ _ _ hb _ => .pure ?_
    have all := Alike.concat ⟨ends, built.ends⟩ hb
    refine ⟨?_, { built with ends := all.holds }⟩
    simp only [Program.unplaced, all.same, functions, begins, rules]
  · refine lockstep_rule.bind fun _ _ _ hr _ => .pure ?_
    have all := Alike.concat ⟨rules, built.rules⟩ hr
    refine ⟨?_, { built with rules := all.holds }⟩
    simp only [Program.unplaced, all.same, functions, begins, ends]

private theorem lockstep_items {n : Nat} (enough : room < n) {p p' : Program}
    (hp : Program.Alike among p p') :
    Lockstep among room 0 (Program.Alike among) (items n p) (items n p') := by
  induction n generalizing room p p' with
  | zero => omega
  | succ n ih =>
    refine Lockstep.skipSeparators.andThen fun _ _ _ => Lockstep.more.test ?_ (.pure hp)
    exact (lockstep_item hp).within fun _ _ r hnext le => ih (by omega) hnext

theorem lockstep_program : Lockstep among room 0 (Program.Alike among) program program := by
  refine .sized (x := fun n => items (n + 1) .empty) (y := fun n => items (n + 1) .empty)
    fun n => lockstep_items (Nat.lt_succ_self n) ⟨rfl, ?_⟩
  exact ⟨nofun, nofun, nofun, nofun⟩

end Parser

/-! ## Sequences of tokens -/

namespace Cursor

private theorem kinds_complete {tokens tokens' : List Token}
    (kinds : tokens.map (·.kind) = tokens'.map (·.kind)) :
    (complete tokens).map (·.kind) = (complete tokens').map (·.kind) := by
  have last : tokens.getLast?.map (·.kind) = tokens'.getLast?.map (·.kind) := by
    rw [← List.getLast?_map, kinds, List.getLast?_map]
  unfold complete
  cases here : tokens.getLast? with
  | none =>
    rw [here] at last
    rw [Option.map_eq_none_iff.mp last.symm]
  | some t =>
    rw [here] at last
    obtain ⟨t', here', kind⟩ := Option.map_eq_some_iff.mp last.symm
    simp only [here', kind]
    split
    · exact kinds
    · rw [List.map_append, List.map_append, kinds]
      rfl

theorem mem_of_mem_complete {tokens : List Token} {t : Token} (mem : t ∈ complete tokens)
    (ne : t.kind ≠ .eof) : t ∈ tokens := by
  have added {u : Token} (eof : u.kind = .eof) (same : t = u) : False :=
    ne (same ▸ eof)
  unfold complete at mem
  split at mem
  · exact (added rfl (List.mem_singleton.mp mem)).elim
  · split at mem
    · exact mem
    · rcases List.mem_append.mp mem with here | last
      · exact here
      · exact (added rfl (List.mem_singleton.mp last)).elim

theorem passed_ofTokens (tokens : List Token) : (ofTokens tokens).passed = [] := by
  unfold ofTokens
  split <;> rfl

private theorem rest_ofTokens (tokens : List Token) : (ofTokens tokens).rest = complete tokens := by
  rw [← toList_ofTokens, toList, passed_ofTokens]
  rfl

private theorem alike_ofTokens {tokens tokens' : List Token}
    (kinds : tokens.map (·.kind) = tokens'.map (·.kind)) :
    (ofTokens tokens).Alike (· ∈ complete tokens) (ofTokens tokens') := by
  refine ⟨ended_of_toList (toList_ofTokens tokens), ?_, fun t mem => rest_ofTokens tokens ▸ mem⟩
  rw [rest_ofTokens, rest_ofTokens, kinds_complete kinds]

end Cursor

/-- Two sequences of tokens of the same kinds: either both are scripts, the same up to places and
built from the tokens, or both are refused for the same cause at tokens of the same kind.  The
fuel is always enough. -/
theorem Program.ofTokens_alike {tokens tokens' : List Token}
    (kinds : tokens.map (·.kind) = tokens'.map (·.kind)) :
    (∃ p p', ofTokens tokens = .ok p ∧ ofTokens tokens' = .ok p' ∧
      Program.Alike (· ∈ Cursor.complete tokens) p p') ∨
    ∃ f f', ofTokens tokens = .error (.fault f) ∧ ofTokens tokens' = .error (.fault f') ∧
      f.message = f'.message ∧ f.found ∈ Cursor.complete tokens := by
  have outcome := Parser.lockstep_program (Cursor.alike_ofTokens kinds) (Nat.le_refl _)
  unfold ofTokens
  generalize Parser.program (.ofTokens tokens) = o,
    Parser.program (.ofTokens tokens') = o' at outcome
  cases outcome with
  | ok alike => exact .inl ⟨_, _, rfl, rfl, alike⟩
  | @fault f g cause kind found =>
    refine .inr ⟨f, g, rfl, rfl, ?_, found⟩
    rw [ParseFault.message, ParseFault.message, cause, kind]

end PatternAction
