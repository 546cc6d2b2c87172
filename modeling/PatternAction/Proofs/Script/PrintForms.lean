import PatternAction.Proofs.Script.Repeats
import PatternAction.Script.StmtParser

/-!
The arguments of a printing may stand in parentheses or not, and mean the same.  A parenthesis
behind the keyword is first taken for the one around all arguments, and the attempt counts only if
the statement ends behind it.  If it belongs to the first argument, then the attempt reads what it
encloses there; so it counts only if nothing else is left of that argument and there is no other
one, and then it has read the same tree.
-/

set_option autoImplicit false
set_option relaxedAutoImplicit false

namespace PatternAction

open Token (Kind)
open Grammar

namespace Parser

/-! ## Where expressions begin -/

private theorem starts_of_level {n : Nat} {l : Level} {c c' : Cursor} {e : Expr}
    (run : level n l c = .ok (e, c')) : c.current.kind.startsExpression = true := by
  induction n generalizing l e c' with
  | zero => cases run
  | succ n ih =>
    change atLevel (level n) n l c = _ at run
    by_cases loose : l = .primary
    · subst loose
      rw [atLevel, primary, location_bind, kind_bind] at run
      generalize c.current.kind = k at run ⊢
      split at run
      all_goals first | rfl | cases run
    · obtain ⟨tail, split, -⟩ := exists_tail loose
      rw [split] at run
      obtain ⟨left, c₁, first, -⟩ := bind_ok run
      exact ih first

private theorem group_of_level {n : Nat} {l : Level} {c c' : Cursor} {e : Expr} (ended : c.Ended)
    (run : level n l c = .ok (e, c')) (paren : c.current.kind = .symbol .leftParen) :
    ∃ n' inner c₁, level n' .assignment c.advance.2 = .ok (inner, c₁) ∧
      c₁.current.kind = .symbol .rightParen ∧ (∃ ks, c₁.advance.2.Took ks c') ∧
      ((∀ l : Level, l.goesOn c₁.advance.2.current.kind = false) →
        e = inner ∧ c' = c₁.advance.2) := by
  induction n generalizing l e c' with
  | zero => cases run
  | succ n ih =>
    change atLevel (level n) n l c = _ at run
    by_cases loose : l = .primary
    · subst loose
      rw [atLevel, primary, location_bind, kind_bind, paren] at run
      simp only at run
      rw [advance_bind] at run
      obtain ⟨inner, c₁, runInner, run⟩ := bind_ok run
      obtain ⟨_, c₂, runClose, run⟩ := bind_ok run
      obtain ⟨close, rfl⟩ := expectSymbol_ok runClose
      obtain ⟨rfl, rfl⟩ := pure_ok run
      exact ⟨n, inner, c₁, runInner, close, ⟨[], .refl _⟩, fun _ => ⟨rfl, rfl⟩⟩
    · obtain ⟨tail, split, again⟩ := exists_tail loose
      have whole := run
      rw [split] at run
      obtain ⟨left, c₂, first, runTail⟩ := bind_ok run
      obtain ⟨n', inner, c₁, runInner, close, ⟨ks, took⟩, alone⟩ := ih first
      obtain ⟨js, took', -⟩ := level_reads n _ ended first
      obtain ⟨is, took'', -⟩ := again (level n) n (repeated_level n) left left rfl
        (took'.ended ended) runTail
      refine ⟨n', inner, c₁, runInner, close, ⟨ks ++ is, took.trans took''⟩, fun quiet => ?_⟩
      obtain ⟨rfl, rfl⟩ := alone quiet
      have pos : 0 < n := by
        cases n with
        | zero => cases first
        | succ n => exact Nat.succ_pos n
      have stopped : atLevel (level n) n l c = .ok (_, c₁.advance.2) :=
        atLevel_of_tighter loose first (quiet l) pos
      obtain ⟨rfl, rfl⟩ := Prod.mk.inj (Except.ok.inj (whole.symm.trans stopped))
      exact ⟨rfl, rfl⟩

/-! ## Phrases in front of a comma -/

/-- A phrase that is read, all of it, where a comma comes next, and in which nothing is printed. -/
structure IsArgument (phrase : Phrase) : Prop where
  printless : Printless phrase.1
  read : ∃ c c' : Cursor, c.Ended ∧ c.Took phrase.1 c' ∧ c'.current.kind = .symbol .comma ∧
    expr c = .ok (phrase.2, c')

private theorem IsArgument.takes {phrase : Phrase} (h : IsArgument phrase) {n : Nat}
    (enough : 16 * phrase.1.length + 13 ≤ n) : Takes (level n .assignment) Stop phrase := by
  obtain ⟨c, c', ended, took, comma, run⟩ := h.read
  obtain ⟨ks, took', some, again⟩ := repeated_level _ .assignment ended run
  obtain rfl := took'.unique took
  refine ⟨?_, fun d d' tookD stop => again h.printless n enough tookD (.inr ⟨comma, stop⟩)⟩
  cases kinds : phrase.1 with
  | nil =>
    rw [kinds] at some
    cases some
  | cons k ks =>
    rw [kinds] at took
    exact ⟨k, ks, rfl, took.head ▸ starts_of_level run⟩

/-! ## Arguments of a printing -/

private theorem endsStatement_iff {k : Kind} :
    endsStatement k = true ↔ k ∈ [Kind.separator, .eof, .symbol .rightBrace] := by
  cases k <;> simp [endsStatement]

private theorem stop_of_endsStatement {k : Kind} (h : endsStatement k = true) :
    Stop k ∧ k ≠ .symbol .comma := by
  have all : ∀ k ∈ [Kind.separator, .eof, .symbol .rightBrace], Stop k ∧ k ≠ .symbol .comma := by
    decide
  exact all k (endsStatement_iff.mp h)

private theorem endsStatement_of_starts {k : Kind} (h : k.startsExpression = true) :
    endsStatement k = false := by
  have all : ∀ k ∈ [Kind.separator, .eof, .symbol .rightBrace], k.startsExpression = false := by
    decide
  rw [← Bool.not_eq_true, endsStatement_iff]
  intro mem
  rw [all k mem] at h
  cases h

private theorem wholeStatement?_run {α : Type} {x : Parser α} {a : α} {c c' : Cursor}
    (run : x c = .ok (a, c')) : wholeStatement? x c =
      if endsStatement c'.current.kind then .ok (some a, c') else .ok (none, c) := by
  rw [wholeStatement?, run]

variable {phrases : List Phrase} {ks : List Kind} {c c' : Cursor} {n : Nat}

private theorem bareArgs_run {sub : Level → Parser Expr} {fuel : Nat} (form : Bare phrases ks)
    (some : phrases ≠ []) (items : ∀ phrase ∈ phrases, Takes (sub .assignment) Stop phrase)
    (room : phrases.length ≤ fuel) (took : c.Took ks c')
    (ends : endsStatement c'.current.kind = true) :
    ∃ es, bareArgs sub fuel c = .ok (es, c') ∧ es.map Expr.erase = phrases.map (·.2.erase) := by
  cases form with
  | nil => exact absurd rfl some
  | @cons phrase phrases ks behind =>
    obtain ⟨stop, other⟩ := stop_of_endsStatement ends
    have first := items phrase List.mem_cons_self
    obtain ⟨c₁, tookFirst, tookTail⟩ := took.split
    have next₁ : Stop c₁.current.kind := by
      cases behind with
      | nil =>
        obtain rfl := tookTail.eq_of_nil
        exact stop
      | cons =>
        rw [tookTail.head]
        decide
    obtain ⟨e, run, same⟩ := first.run tookFirst next₁
    obtain ⟨es, runTail, sameTail⟩ := commaTail_run behind (by decide)
      (fun q mem => (items q (List.mem_cons_of_mem _ mem)).onLine)
      (Nat.lt_of_succ_le room) tookTail stop other
    refine ⟨e :: es, ?_, by rw [List.map_cons, List.map_cons, same, sameTail]⟩
    rw [bareArgs, kind_bind, endsStatement_of_starts (first.starts took)]
    change (sub .assignment >>= _) _ = _
    rw [bind_run run, bind_run runTail]
    rfl

/-- Each phrase is among the tokens, and there are hardly more phrases than tokens. -/
def Fit (phrases : List Phrase) (ks : List Kind) : Prop :=
  phrases.length ≤ ks.length + 1 ∧ ∀ phrase ∈ phrases, phrase.1.length ≤ ks.length

private theorem fit_behindCommas {separators : Bool} (form : BehindCommas separators phrases ks) :
    ∀ phrase ∈ phrases, phrase.1.length ≤ ks.length := by
  induction form with
  | nil => simp
  | cons phrase _ _ ih =>
    simp only [List.length_cons, List.length_append]
    refine List.forall_mem_cons.mpr ⟨by omega, fun q mem => ?_⟩
    have fits := ih q mem
    omega

private theorem fit_cons {separators : Bool} {phrase : Phrase} {js : List Kind}
    (behind : BehindCommas separators phrases ks) (le : phrase.1.length + ks.length ≤ js.length) :
    Fit (phrase :: phrases) js := by
  have count := length_le_behindCommas behind
  refine ⟨by rw [List.length_cons]; omega, List.forall_mem_cons.mpr ⟨by omega, fun q mem => ?_⟩⟩
  have fits := fit_behindCommas behind q mem
  omega

private theorem fit_bare (form : Bare phrases ks) : Fit phrases ks := by
  cases form with
  | nil => exact ⟨Nat.zero_le _, by simp⟩
  | cons phrase behind => exact fit_cons behind (Nat.le_of_eq List.length_append.symm)

private theorem fit_parenthesised (form : Parenthesised phrases ks) : Fit phrases ks := by
  cases form with
  | nil => exact ⟨Nat.zero_le _, by simp⟩
  | cons phrase behind =>
    exact fit_cons behind (by simp only [List.length_cons, List.length_append]; omega)

private theorem Fit.takes (fit : Fit phrases ks) (args : ∀ phrase ∈ phrases, IsArgument phrase)
    (enough : 16 * ks.length + 13 ≤ n) :
    ∀ phrase ∈ phrases, Takes (level n .assignment) Stop phrase := by
  intro phrase mem
  have fits := fit.2 phrase mem
  exact (args phrase mem).takes (by omega)

private theorem printArgs_parenthesised (form : Parenthesised phrases ks)
    (args : ∀ phrase ∈ phrases, IsArgument phrase) (enough : 16 * ks.length + 13 ≤ n)
    (took : c.Took ks c') (ends : endsStatement c'.current.kind = true) :
    ∃ es, printArgs (level n) n c = .ok (es, c') ∧
      es.map Expr.erase = phrases.map (·.2.erase) := by
  have fit := fit_parenthesised form
  have paren : c.current.kind = .symbol .leftParen := by
    cases form <;> exact took.head
  have room : phrases.length ≤ n := Nat.le_trans fit.1 (by omega)
  obtain ⟨es, run, same⟩ := callArgs_run form (by decide) (by decide) (fit.takes args enough) room
    took
  refine ⟨es, ?_, same⟩
  have whole := wholeStatement?_run run
  rw [if_pos ends] at whole
  rw [printArgs, atSymbol_bind, if_pos (Cursor.check_symbol.mpr paren), bind_run whole]
  rfl

/-- What an argument encloses in parentheses at its beginning can be read as arguments.  Behind it
is a token where an expression may end only if that was the whole argument. -/
private theorem callArgs_group {phrase : Phrase} (arg : IsArgument phrase)
    (enough : 16 * phrase.1.length + 13 ≤ n) (took : c.Took (phrase.1 ++ ks) c')
    (paren : c.current.kind = .symbol .leftParen) :
    ∃ inner d is, callArgs (level n) n c = .ok ([inner], d) ∧ d.Took (is ++ ks) c' ∧
      (Stop d.current.kind → is = [] ∧ inner.erase = phrase.2.erase) := by
  obtain ⟨c₀, c₀', ended, took₀, comma, run₀⟩ := arg.read
  have paren₀ : c₀.current.kind = .symbol .leftParen := by
    obtain ⟨k, js, split, -⟩ := (arg.takes enough).head
    rw [split] at took took₀
    have here : c.Took (k :: (js ++ ks)) c' := took
    exact took₀.head.trans (here.head.symm.trans paren)
  -- What the parentheses enclose was read in front of the comma, so it is read here.
  obtain ⟨n₀, inner₀, c₁, runInner, close, ⟨is, tookBehind⟩, alone⟩ :=
    group_of_level ended run₀ paren₀
  have tookOpen := Cursor.took_advance ended paren₀ nofun
  have ended₁ := tookOpen.ended ended
  obtain ⟨gs, tookInner, -, again⟩ := repeated_level n₀ .assignment ended₁ runInner
  have tookClose := Cursor.took_advance (tookInner.ended ended₁) close nofun
  have shape : phrase.1 = .symbol .leftParen :: (gs ++ Kind.symbol .rightParen :: is) :=
    took₀.unique (tookOpen.trans (tookInner.trans (tookClose.trans tookBehind)))
  have tookAll :
      c.Took (.symbol .leftParen :: (gs ++ Kind.symbol .rightParen :: (is ++ ks))) c' := by
    simpa [shape] using took
  obtain ⟨d₁, tookD, tookRest⟩ := (tookAll.tail nofun).split
  have free : Printless gs := fun k mem => arg.printless k (by simp [shape, mem])
  have fits : 16 * gs.length + 13 ≤ n := by
    simp only [shape, List.length_cons, List.length_append] at enough
    omega
  obtain ⟨inner, runD, same⟩ := again free n fits tookD (.inl (tookRest.head.trans close.symm))
  refine ⟨inner, d₁.advance.2, is, ?_, tookRest.tail nofun, fun stop => ?_⟩
  · have other : c.advance.2.current.kind ≠ .symbol .rightParen := by
      intro here
      have starts := starts_of_level runD
      rw [here] at starts
      cases starts
    have noComma : d₁.current.kind ≠ .symbol .comma := by
      rw [tookRest.head]
      exact nofun
    obtain ⟨n, rfl⟩ : ∃ m, n = m + 1 := ⟨n - 1, by omega⟩
    have tail : commaTail (do skipSeparators; level (n + 1) .assignment) (n + 1) d₁ =
        .ok ([], d₁) := by
      rw [commaTail, acceptSymbol_bind, if_neg noComma]
      rfl
    rw [callArgs, advance_bind, acceptSymbol_bind, if_neg other]
    change (level (n + 1) .assignment >>= _) _ = _
    rw [bind_run runD, bind_run tail, bind_run (expectSymbol_run _ tookRest.head)]
    rfl
  · cases is with
    | nil =>
      obtain rfl := tookBehind.eq_of_nil
      have quiet (l : Level) : l.goesOn c₁.advance.2.current.kind = false := by
        rw [comma]
        exact Stop.goesOn (by decide) l
      rw [(alone quiet).1, same]
      exact ⟨rfl, rfl⟩
    | cons k is =>
      have here : c₁.advance.2.current.kind = k := tookBehind.head
      have there : d₁.advance.2.current.kind = k := (tookRest.tail nofun).head
      obtain ⟨-, rfl⟩ := alone fun l => here ▸ (there ▸ stop : Stop k).goesOn l
      cases tookBehind.unique (.refl _)

/-- The second way: bare arguments.  If they begin with a parenthesis, what it encloses is tried
first; where the statement ends behind it, that was all, and otherwise the attempt is given up. -/
private theorem printArgs_bare (form : Bare phrases ks) (some : phrases ≠ [])
    (args : ∀ phrase ∈ phrases, IsArgument phrase) (enough : 16 * ks.length + 13 ≤ n)
    (took : c.Took ks c') (ends : endsStatement c'.current.kind = true) :
    ∃ es, printArgs (level n) n c = .ok (es, c') ∧
      es.map Expr.erase = phrases.map (·.2.erase) := by
  have fit := fit_bare form
  have room : phrases.length ≤ n := Nat.le_trans fit.1 (by omega)
  have bare := bareArgs_run form some (fit.takes args enough) room took ends
  rw [printArgs, atSymbol_bind]
  by_cases paren : c.current.kind = .symbol .leftParen
  · rw [if_pos (Cursor.check_symbol.mpr paren)]
    cases form with
    | nil => exact absurd rfl some
    | @cons phrase phrases js behind =>
      have fits := fit.2 phrase List.mem_cons_self
      obtain ⟨inner, d, is, run, tookD, whole⟩ :=
        callArgs_group (n := n) (args phrase List.mem_cons_self) (by omega) took paren
      have tried := wholeStatement?_run run
      by_cases ends₁ : endsStatement d.current.kind = true
      · obtain ⟨stop, other⟩ := stop_of_endsStatement ends₁
        obtain ⟨rfl, same⟩ := whole stop
        cases behind with
        | nil =>
          obtain rfl := tookD.eq_of_nil
          rw [if_pos ends₁] at tried
          refine ⟨[inner], ?_, by rw [List.map_singleton, same]; rfl⟩
          rw [bind_run tried]
          rfl
        | cons => exact absurd tookD.head other
      · rw [if_neg ends₁] at tried
        rw [bind_run tried]
        exact bare
  · rw [if_neg (mt Cursor.check_symbol.mp paren)]
    exact bare

/-! ## Printings -/

/-- Both ways of writing arguments, with the trees that are read: in parentheses, where separators
may stand behind the commas, and without. -/
def WrittenArguments (phrases : List Phrase) (ks : List Kind) : Prop :=
  Parenthesised phrases ks ∨ Bare phrases ks

private theorem gives_print {k : Keyword} (printing : k ∈ [Keyword.print, .printf])
    (form : WrittenArguments phrases ks) (some : phrases ≠ [])
    (args : ∀ phrase ∈ phrases, IsArgument phrase) (place : Location) :
    Gives (16 * ks.length + 14) .primary (.keyword k :: ks) (endsStatement · = true)
      (.call k.spelling (phrases.map Prod.snd) place) := by
  apply gives_of_atLevel
  intro n enough c c' took ends
  have tookArgs : c.advance.2.Took ks c' := took.tail nofun
  have arguments : ∃ es, printArgs (level n) n c.advance.2 = .ok (es, c') ∧
      es.map Expr.erase = phrases.map (·.2.erase) := by
    rcases form with form | form
    · exact printArgs_parenthesised form args enough tookArgs ends
    · exact printArgs_bare form some args enough tookArgs ends
  obtain ⟨es, run, same⟩ := arguments
  refine ⟨.call k.spelling es c.location, ?_, ?_⟩
  · rw [atLevel, primary, location_bind, kind_bind, took.head]
    simp only [List.mem_cons, List.not_mem_nil, or_false] at printing
    rcases printing with rfl | rfl
    all_goals
      simp only
      rw [advance_bind, bind_run run]
      rfl
  · rw [Expr.erase_call, Expr.erase_call, same, List.map_map]
    rfl

private theorem statementAt_print {k : Keyword} (printing : k ∈ [Keyword.print, .printf])
    (form : WrittenArguments phrases ks) (some : phrases ≠ [])
    (args : ∀ phrase ∈ phrases, IsArgument phrase) (took : c.Took (.keyword k :: ks) c')
    (ends : endsStatement c'.current.kind = true) :
    ∃ e, (∀ m, statementAt (m + 1) c = .ok (.expr e, c')) ∧
      e.erase = (Expr.call k.spelling (phrases.map Prod.snd) .unknown).erase := by
  have climbed := (gives_print printing form some args .unknown).climb (l := .assignment)
    (by omega) (Nat.zero_le _) fun j ends' m _ _ => (stop_of_endsStatement ends').1.goesOn m
  have enough : 16 * ks.length + 14 + (Level.assignment.rank - Level.primary.rank) ≤
      exprFuel c := by
    obtain ⟨used, moved, kinds⟩ := took
    have lengths := congrArg List.length moved.rest
    have many := congrArg List.length kinds
    simp only [Cursor.rest, List.length_cons, List.length_append, List.length_map] at lengths many
    simp only [exprFuel, Cursor.remaining, Level.rank]
    omega
  obtain ⟨e, run, same⟩ := climbed (exprFuel c) enough took ends
  have whole : expr c = .ok (e, c') := run
  refine ⟨e, fun m => ?_, same⟩
  simp only [List.mem_cons, List.not_mem_nil, or_false] at printing
  rw [statementAt, statementWith, location_bind, kind_bind, took.head]
  rcases printing with rfl | rfl
  all_goals
    simp only
    rw [bind_run whole]
    rfl

/-- Both ways of writing a printing mean the same.  Given arguments, one or more, written in
parentheses from one place on and without them from another, and a token behind each that ends a
statement: at both places the statement is read up to that token, and it is the same call, up to
places, with the trees of the arguments. -/
theorem print_forms_agree {k : Keyword} (printing : k ∈ [Keyword.print, .printf])
    {phrases : List Phrase} (some : phrases ≠ []) (args : ∀ phrase ∈ phrases, IsArgument phrase)
    {ks js : List Kind} (inParens : Parenthesised phrases ks) (bare : Bare phrases js)
    {c c' d d' : Cursor} (took : c.Took (.keyword k :: ks) c')
    (ends : endsStatement c'.current.kind = true) (tookD : d.Took (.keyword k :: js) d')
    (endsD : endsStatement d'.current.kind = true) :
    ∃ e e', statement c = .ok (.expr e, c') ∧ statement d = .ok (.expr e', d') ∧
      (∀ m, statementAt (m + 1) c = .ok (.expr e, c') ∧
        statementAt (m + 1) d = .ok (.expr e', d')) ∧
      e.erase = e'.erase ∧
      e.erase = (Expr.call k.spelling (phrases.map Prod.snd) .unknown).erase := by
  obtain ⟨e, run, same⟩ := statementAt_print printing (.inl inParens) some args took ends
  obtain ⟨e', runD, same'⟩ := statementAt_print printing (.inr bare) some args tookD endsD
  exact ⟨e, e', run _, runD _, fun m => ⟨run m, runD m⟩, same.trans same'.symm, same⟩

/-- Two arguments that begin with parentheses, so that without parentheses around both the first
pair is tried and given up. -/
theorem print_forms_agree_tried :
    let place (front : List Kind) (k : Kind) (back : List Kind) : Cursor :=
      ⟨(front.map (⟨·, .unknown⟩)).reverse, ⟨k, .unknown⟩, back.map (⟨·, .unknown⟩)⟩
    let a : List Kind := [.symbol .leftParen, .word "a", .symbol .rightParen]
    let joined : Phrase := (a ++ [Kind.word "b"],
      .binary .concatenation (.var "a" .unknown) (.var "b" .unknown) .unknown)
    let sum : Phrase := (a ++ [Kind.symbol .plus, .number "1"],
      .binary .add (.var "a" .unknown) (.const "1") .unknown)
    let js := joined.1 ++ Kind.symbol .comma :: sum.1
    let ks := .symbol .leftParen :: (js ++ [Kind.symbol .rightParen])
    let c := place [] (.keyword .print) (ks ++ [Kind.separator, .eof])
    let d := place [] (.keyword .print) (js ++ [Kind.symbol .rightBrace, .eof])
    IsArgument joined ∧ IsArgument sum ∧
      ∃ e e', statement c = .ok (.expr e, place (.keyword .print :: ks) .separator [.eof]) ∧
        statement d = .ok (.expr e', place (.keyword .print :: js) (.symbol .rightBrace) [.eof]) ∧
        e.erase = e'.erase ∧
        e.erase = (Expr.call "print" [joined.2, sum.2] .unknown).erase := by
  intro place a joined sum js ks c d
  have argument {rest : List Kind} {e : Expr} (free : Printless (.symbol .leftParen :: rest))
      (run : expr (place [] (.symbol .leftParen) (rest ++ [Kind.symbol .comma, .eof])) =
        .ok (e, place (.symbol .leftParen :: rest) (.symbol .comma) [.eof])) :
      IsArgument (.symbol .leftParen :: rest, e) := by
    refine ⟨free, _, _, ?_, ?_, rfl, run⟩
    · exact ⟨(.symbol .leftParen :: (rest ++ [Kind.symbol .comma])).map (⟨·, .unknown⟩),
        ⟨.eof, .unknown⟩, by simp [place, Cursor.rest], rfl⟩
    · exact ⟨(.symbol .leftParen :: rest).map (⟨·, .unknown⟩),
        ⟨by simp [place], by simp [place, Cursor.rest]⟩, by simp [Function.comp_def]⟩
  have joinedRead : IsArgument joined := argument (by simp [Printless]) (by rfl)
  have sumRead : IsArgument sum := argument (by simp [Printless]) (by rfl)
  have none : ∀ k ∈ ([] : List Kind), true = true ∧ k = .separator := by simp
  have none' : ∀ k ∈ ([] : List Kind), false = true ∧ k = .separator := by simp
  have inParens : Parenthesised [joined, sum] ks := .cons joined (.cons sum none .nil)
  have bare : Bare [joined, sum] js := .cons joined (.cons sum none' .nil)
  have args : ∀ phrase ∈ [joined, sum], IsArgument phrase :=
    List.forall_mem_cons.mpr ⟨joinedRead, List.forall_mem_singleton.mpr sumRead⟩
  have took : c.Took (.keyword .print :: ks) (place (.keyword .print :: ks) .separator [.eof]) :=
    ⟨(.keyword .print :: ks).map (⟨·, .unknown⟩), ⟨rfl, rfl⟩, rfl⟩
  have tookD : d.Took (.keyword .print :: js)
      (place (.keyword .print :: js) (.symbol .rightBrace) [.eof]) :=
    ⟨(.keyword .print :: js).map (⟨·, .unknown⟩), ⟨rfl, rfl⟩, rfl⟩
  obtain ⟨e, e', run, runD, -, alike, same⟩ :=
    print_forms_agree (by decide) (by simp) args inParens bare took rfl tookD rfl
  exact ⟨joinedRead, sumRead, e, e', run, runD, alike, same⟩

end Parser

end PatternAction
