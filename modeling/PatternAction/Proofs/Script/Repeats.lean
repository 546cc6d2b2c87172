import PatternAction.Proofs.Script.Derivation
import PatternAction.Proofs.Script.RoundTrip

/-!
What an expression parser takes in front of a comma it takes elsewhere too.  A parser looks at the
tokens it takes and at the one behind them, and to most parsers that one says only that nothing goes
on there: a comma, a closing parenthesis and whatever ends a statement are alike to them.  `Repeats`
says this of a parser and of those with enough fuel for the tokens; it is kept by putting parsers
one after the other, and each parser of the grammar has it.  A printing does not, since it looks for
the end of the statement, so no printing may be among the tokens.
-/

set_option autoImplicit false
set_option relaxedAutoImplicit false

namespace PatternAction

open Token (Kind)

def stops : List Kind :=
  [.symbol .comma, .symbol .rightParen, .symbol .rightBrace, .separator, .eof]

def Stop (k : Kind) : Prop :=
  k ∈ stops

instance (k : Kind) : Decidable (Stop k) :=
  inferInstanceAs (Decidable (k ∈ stops))

theorem Stop.goesOn {k : Kind} (h : Stop k) (l : Level) : l.goesOn k = false := by
  have all : ∀ k ∈ stops, ∀ l ∈ Level.ordered, l.goesOn k = false := by decide
  exact all k h l l.mem_ordered

/-- What may stand elsewhere where this kind stands: the same, and for a comma any stop. -/
def Stands (k k' : Kind) : Prop :=
  k' = k ∨ k = .symbol .comma ∧ Stop k'

/-- No token is the keyword of a printing. -/
def Printless (ks : List Kind) : Prop :=
  ∀ k ∈ ks, k ≠ .keyword .print ∧ k ≠ .keyword .printf

namespace Parser

variable {α β γ δ : Type}

/-! ## Repeated runs -/

/-- What the parser takes from this place on, if that is at least so many tokens, the others take
wherever the same tokens stand, and what they answer looks the same.  Sixteen units of fuel for each
token and some more are enough. -/
def RepeatsAt (c : Cursor) (slack least : Nat) (view : α → γ) (x : Parser α) (y : Nat → Parser α) :
    Prop :=
  ∀ ⦃c' : Cursor⦄ ⦃a : α⦄, x c = .ok (a, c') →
    ∃ ks, c.Took ks c' ∧ least ≤ ks.length ∧
      (Printless ks → ∀ m, 16 * ks.length + slack ≤ m → ∀ ⦃d d' : Cursor⦄, d.Took ks d' →
        Stands c'.current.kind d'.current.kind → ∃ b, y m d = .ok (b, d') ∧ view b = view a)

def Repeats (slack least : Nat) (view : α → γ) (x : Parser α) (y : Nat → Parser α) : Prop :=
  ∀ ⦃c : Cursor⦄, c.Ended → RepeatsAt c slack least view x y

private theorem stands_between {c₁ c' d₁ d' : Cursor} {js : List Kind} (took : c₁.Took js c')
    (tookD : d₁.Took js d') (stands : Stands c'.current.kind d'.current.kind) :
    Stands c₁.current.kind d₁.current.kind := by
  cases js with
  | nil =>
    obtain rfl := took.eq_of_nil
    obtain rfl := tookD.eq_of_nil
    exact stands
  | cons k js => exact .inl (tookD.head.trans took.head.symm)

section Combining

variable {s s₁ s₂ least least₁ least₂ : Nat} {view : α → γ} {view' : β → δ} {x : Parser α}
  {y : Nat → Parser α} {c : Cursor}

private theorem RepeatsAt.bind {f : α → Parser β} {g : Nat → α → Parser β} (ended : c.Ended)
    (first : RepeatsAt c s₁ least₁ view x y)
    (next : ∀ a b, view b = view a → Repeats s₂ least₂ view' (f a) (fun m => g m b))
    (le₁ : s₁ ≤ s) (le₂ : s₂ ≤ s + 16 * least₁) (le : least ≤ least₁ + least₂) :
    RepeatsAt c s least view' (x >>= f) (fun m => y m >>= g m) := by
  intro c' e run
  obtain ⟨a, c₁, runFirst, runNext⟩ := bind_ok run
  obtain ⟨ks, took, long, again⟩ := first runFirst
  have ended₁ := took.ended ended
  obtain ⟨js, took', long', -⟩ := next a a rfl ended₁ runNext
  refine ⟨ks ++ js, took.trans took', by rw [List.length_append]; omega, ?_⟩
  intro free m enough d d' tookD stands
  rw [List.length_append] at enough
  obtain ⟨d₁, tookD₁, tookD₂⟩ := tookD.split
  obtain ⟨b, run₁, same⟩ := again (fun k mem => free k (List.mem_append_left _ mem)) m (by omega)
    tookD₁ (stands_between took' tookD₂ stands)
  obtain ⟨js', took'', -, again'⟩ := next a b same ended₁ runNext
  obtain rfl := took''.unique took'
  obtain ⟨e', run₂, same'⟩ := again' (fun k mem => free k (List.mem_append_right _ mem)) m
    (by omega) tookD₂ stands
  exact ⟨e', (bind_run run₁).trans run₂, same'⟩

private theorem RepeatsAt.mono (h : RepeatsAt c s₁ least₁ view x y) (le : s₁ ≤ s)
    (le' : least ≤ least₁) :
    RepeatsAt c s least view x y := by
  intro c' a run
  obtain ⟨ks, took, long, again⟩ := h run
  exact ⟨ks, took, Nat.le_trans le' long, fun free m enough => again free m (by omega)⟩

private theorem repeatsAt_advance (ended : c.Ended) (more : c.current.kind ≠ .eof) :
    RepeatsAt c 0 1 (fun _ => ()) advance (fun _ => advance) := by
  intro c' a run
  obtain rfl : c.advance.2 = c' := (Prod.mk.inj (Except.ok.inj run)).2
  refine ⟨_, Cursor.took_advance ended rfl more, Nat.le_refl 1, fun _ m _ d d' took _ => ?_⟩
  obtain rfl := (took.tail more).eq_of_nil
  exact ⟨(), rfl, rfl⟩

namespace Repeats

private theorem bind {f : α → Parser β} {g : Nat → α → Parser β}
    (first : Repeats s₁ least₁ view x y)
    (next : ∀ a b, view b = view a → Repeats s₂ least₂ view' (f a) (fun m => g m b))
    (le₁ : s₁ ≤ s) (le₂ : s₂ ≤ s + 16 * least₁) (le : least ≤ least₁ + least₂) :
    Repeats s least view' (x >>= f) (fun m => y m >>= g m) :=
  fun _ ended => (first ended).bind ended next le₁ le₂ le

private theorem andThen {f : α → Parser β} {g : Nat → α → Parser β} (first : Repeats s 0 view x y)
    (next : ∀ a b, view b = view a → Repeats s least view' (f a) (fun m => g m b)) :
    Repeats s least view' (x >>= f) (fun m => y m >>= g m) :=
  first.bind next (Nat.le_refl s) (Nat.le_refl s) (Nat.le_add_left least 0)

private theorem further {f : α → Parser β} {g : Nat → α → Parser β} (first : Repeats s 1 view x y)
    (next : ∀ a b, view b = view a → Repeats (s + 16) 0 view' (f a) (fun m => g m b)) :
    Repeats s 1 view' (x >>= f) (fun m => y m >>= g m) :=
  first.bind next (Nat.le_refl s) (Nat.le_refl (s + 16)) (Nat.le_refl 1)

private theorem mono (h : Repeats s₁ least₁ view x y) (le : s₁ ≤ s) (le' : least ≤ least₁) :
    Repeats s least view x y :=
  fun _ ended => (h ended).mono le le'

private theorem congr {y' : Nat → Parser α} (h : Repeats s least view x y)
    (same : ∀ m, s ≤ m → y' m = y m) : Repeats s least view x y' := by
  intro c ended c' a run
  obtain ⟨ks, took, long, again⟩ := h ended run
  refine ⟨ks, took, long, fun free m enough => ?_⟩
  rw [same m (by omega)]
  exact again free m enough

private theorem pure {a b : α} (same : view b = view a) :
    Repeats s 0 view (Pure.pure a) (fun _ => Pure.pure b) := by
  intro c ended c' a' run
  obtain ⟨rfl, rfl⟩ := pure_ok run
  refine ⟨[], .refl c, Nat.le_refl 0, fun _ m _ d d' took _ => ?_⟩
  obtain rfl := took.eq_of_nil
  exact ⟨b, rfl, same⟩

private theorem fail (cause : ParseCause) : Repeats s least view (Parser.fail cause) y := by
  intro c ended c' a run
  cases run

private theorem look (see : Kind → β) {f : Cursor → α}
    (seen : ∀ k, Stop k → see k = see (.symbol .comma))
    (alike : ∀ c d : Cursor, see d.current.kind = see c.current.kind → view (f d) = view (f c)) :
    Repeats s 0 view (fun c => .ok (f c, c)) (fun _ c => .ok (f c, c)) := by
  intro c ended c' a run
  obtain ⟨rfl, rfl⟩ := Prod.mk.inj (Except.ok.inj run)
  refine ⟨[], .refl c, Nat.le_refl 0, fun _ m _ d d' took stands => ?_⟩
  obtain rfl := took.eq_of_nil
  refine ⟨f d, rfl, alike c d ?_⟩
  rcases stands with same | ⟨comma, stop⟩
  · rw [same]
  · rw [seen _ stop, comma]

private theorem location : Repeats s 0 (fun _ => ()) location (fun _ => location) :=
  look (fun _ => ()) (fun _ _ => rfl) fun _ _ _ => rfl

private theorem kind {see : Kind → β} (seen : ∀ k, Stop k → see k = see (.symbol .comma)) :
    Repeats s 0 see kind (fun _ => kind) :=
  look see seen fun _ _ same => same

private theorem atSymbol {p : Symbol} (other : ¬ Stop (.symbol p)) :
    Repeats s 0 id (atSymbol p) (fun _ => atSymbol p) := by
  have away {k : Kind} (stop : Stop k) : k ≠ .symbol p := fun same => other (same ▸ stop)
  refine look (fun k => decide (k = .symbol p)) (fun k stop => ?_) fun c d same => ?_
  · rw [decide_eq_false (away stop), decide_eq_false (away (by decide))]
  · rw [decide_eq_decide] at same
    rw [id, id, Bool.eq_iff_iff, Cursor.check_symbol, Cursor.check_symbol, same]

private theorem atExpression : Repeats s 0 id atExpression (fun _ => atExpression) := by
  have none : ∀ k ∈ stops, k.startsExpression = Kind.startsExpression (.symbol .comma) := by decide
  exact look Kind.startsExpression none fun _ _ same => same

private theorem advance : Repeats s 0 (fun _ => ()) advance (fun _ => advance) := by
  intro c ended
  by_cases eof : c.current.kind = .eof
  · intro c' a run
    obtain rfl : c.advance.2 = c' := (Prod.mk.inj (Except.ok.inj run)).2
    rw [Cursor.advance_of_eof eof]
    refine ⟨[], .refl c, Nat.le_refl 0, fun _ m _ d d' took stands => ?_⟩
    obtain rfl := took.eq_of_nil
    rcases stands with same | ⟨comma, -⟩
    · have stays := Cursor.advance_of_eof (same.trans eof)
      exact ⟨(), congrArg (fun c => Except.ok ((), c)) stays, rfl⟩
    · cases eof.symm.trans comma
  · exact (repeatsAt_advance ended eof).mono (Nat.zero_le s) (Nat.zero_le 1)

/-- A token that may be there, and what follows either way.  If it is a stop, then without it more
tokens are to be taken, unless it is the comma itself. -/
private theorem ifSymbol {p : Symbol} {x' : Parser α} {y' : Nat → Parser α} {n : Nat}
    (clear : Stop (.symbol p) → p = .comma ∨ 1 ≤ least) (yes : Repeats s₁ n view x y)
    (no : Repeats s₂ least view x' y') (le : least ≤ n + 1) (le₁ : s₁ ≤ s + 16) (le₂ : s₂ ≤ s) :
    Repeats s least view (do if ← acceptSymbol p then x else x')
      (fun m => do if ← acceptSymbol p then y m else y' m) := by
  intro c ended c' a run
  rw [acceptSymbol_bind] at run
  split at run
  · rename_i here
    have tookSign := Cursor.took_advance ended here nofun
    obtain ⟨ks, took, long, again⟩ := yes (tookSign.ended ended) run
    refine ⟨_, tookSign.trans took, by rw [List.length_append]; simp; omega, ?_⟩
    intro free m enough d d' tookD stands
    rw [List.length_append, List.length_singleton] at enough
    obtain ⟨b, runD, same⟩ := again (fun k mem => free k (List.mem_append_right _ mem)) m
      (by omega) (tookD.tail nofun) stands
    refine ⟨b, (acceptSymbol_bind p _ d).trans ?_, same⟩
    rw [if_pos tookD.head]
    exact runD
  · rename_i other
    obtain ⟨ks, took, long, again⟩ := no ended run
    refine ⟨ks, took, long, fun free m enough d d' tookD stands => ?_⟩
    have otherD : d.current.kind ≠ .symbol p := by
      intro here
      rcases stands_between took tookD stands with same | ⟨comma, stop⟩
      · exact other (same.symm.trans here)
      · rcases clear (here ▸ stop) with rfl | some
        · exact other comma
        · cases ks with
          | nil => exact absurd long (by simp; omega)
          | cons k ks => exact other (took.head.trans (tookD.head.symm.trans here))
    obtain ⟨b, runD, same⟩ := again free m (by omega) tookD stands
    refine ⟨b, (acceptSymbol_bind p _ d).trans ?_, same⟩
    rw [if_neg otherD]
    exact runD

private theorem expectSymbol (p : Symbol) (cause : ParseCause) :
    Repeats s 1 id (expectSymbol p cause) (fun _ => expectSymbol p cause) := by
  intro c ended c' a run
  obtain ⟨here, rfl⟩ := expectSymbol_ok run
  refine ⟨_, Cursor.took_advance ended here nofun, Nat.le_refl 1, fun _ m _ d d' took _ => ?_⟩
  obtain rfl := (took.tail nofun).eq_of_nil
  exact ⟨(), expectSymbol_run cause took.head, rfl⟩

private theorem required (h : Repeats s least view x y) (some : 1 ≤ least) :
    Repeats s least view (required x) (fun m => required (y m)) := by
  intro c ended c' a run
  have starts : c.current.kind.startsExpression = true := by
    rw [Parser.required, atExpression_bind] at run
    split at run
    · assumption
    · cases run
  obtain ⟨ks, took, long, again⟩ := h ended (required_ok run)
  refine ⟨ks, took, long, fun free m enough d d' tookD stands => ?_⟩
  obtain ⟨b, runD, same⟩ := again free m enough tookD stands
  refine ⟨b, required_run ?_ runD, same⟩
  cases ks with
  | nil => exact absurd long (by simp; omega)
  | cons k ks => rwa [tookD.head, ← took.head]

private theorem separated (h : Repeats s least view x y) (some : 1 ≤ least) :
    Repeats s least view (do skipSeparators; x) (fun m => do skipSeparators; y m) := by
  intro c ended c' a run
  rw [skipSeparators_bind] at run
  obtain ⟨gap, separators, tookGap⟩ := Cursor.took_skipSeparators c
  obtain ⟨ks, took, long, again⟩ := h (tookGap.ended ended) run
  refine ⟨gap ++ ks, tookGap.trans took, by rw [List.length_append]; omega, ?_⟩
  intro free m enough d d' tookD stands
  rw [List.length_append] at enough
  cases ks with
  | nil => exact absurd long (by simp; omega)
  | cons k ks =>
    have other : k ≠ .separator := took.head ▸ Cursor.skipSeparators_ne ended
    exact again (fun k mem => free k (List.mem_append_right _ mem)) m (by omega)
      (tookD.skipSeparators separators other) stands

/-! ## Loops -/

private theorem commaTail {next : Parser α} {again : Nat → Parser α}
    (h : Repeats s₁ 1 view next again) (n : Nat) {i s : Nat} (room : i < s) (le : s₁ ≤ s) :
    Repeats s 0 (List.map view) (commaTail next n) (fun m => commaTail (again m) (m - i)) := by
  induction n generalizing i s with
  | zero =>
    intro c ended c' a run
    cases run
  | succ n ih =>
    have fuel (m : Nat) (enough : s ≤ m) : Parser.commaTail (again m) (m - i) =
        Parser.commaTail (again m) (m - (i + 1) + 1) := by
      have succ : m - i = m - (i + 1) + 1 := by omega
      rw [succ]
    refine congr ?_ fuel
    have item : Repeats (s + 16) 0 view next again := h.mono (by omega) (Nat.zero_le 1)
    have more := ih (i := i + 1) (s := s + 16) (by omega) (by omega)
    refine ifSymbol (n := 0) (fun _ => .inl rfl) ?_ (pure rfl) (Nat.zero_le _) (Nat.le_refl _)
      (Nat.le_refl s)
    refine item.andThen fun a b same => more.andThen fun as bs sames => pure ?_
    rw [List.map_cons, List.map_cons, same, sames]

private theorem chainTail (chain : Chain) {operand : Parser Expr} {again : Nat → Parser Expr}
    (h : Repeats s₁ 1 Expr.erase operand again) (n : Nat) {i s : Nat} (room : i < s) (le : s₁ ≤ s)
    {left left' : Expr} (same : left'.erase = left.erase) :
    Repeats s 0 Expr.erase (chainTail chain.operator? operand n left)
      (fun m => chainTail chain.operator? (again m) (m - i) left') := by
  induction n generalizing i s left left' with
  | zero =>
    intro c ended c' a run
    cases run
  | succ n ih =>
    have fuel (m : Nat) (enough : s ≤ m) :
        Parser.chainTail chain.operator? (again m) (m - i) left' =
          Parser.chainTail chain.operator? (again m) (m - (i + 1) + 1) left' := by
      have succ : m - i = m - (i + 1) + 1 := by omega
      rw [succ]
    refine congr ?_ fuel
    have quiet : ∀ k, Stop k → chain.operator? k = chain.operator? (.symbol .comma) := by
      intro k stop
      have none (k : Kind) (stop : Stop k) : chain.operator? k = none := by
        simpa [Level.goesOn] using stop.goesOn (.chain chain)
      rw [none k stop, none _ (by decide)]
    refine (kind quiet).andThen fun k k' operator => ?_
    rw [operator]
    cases chain.operator? k with
    | none => exact pure same
    | some op =>
      refine location.andThen fun l l' _ => advance.andThen fun _ _ _ => ?_
      have item := (h.required (Nat.le_refl 1)).mono le (Nat.le_refl 1)
      refine (item.further fun right right' same' => ?_).mono (Nat.le_refl s) (Nat.zero_le 1)
      exact ih (i := i + 1) (by omega) (by omega) (by simp only [Expr.erase, same, same'])

end Repeats

private theorem RepeatsAt.behind {f : Unit → Parser α} {g : Nat → Unit → Parser α} (ended : c.Ended)
    (more : c.current.kind ≠ .eof) (next : Repeats 13 0 view (f ()) (fun m => g m ())) :
    RepeatsAt c 0 1 view (advance >>= f) (fun m => advance >>= g m) :=
  (repeatsAt_advance ended more).bind ended (fun _ _ _ => next) (Nat.le_refl 0) (by decide)
    (Nat.le_refl 1)

private theorem Repeats.byKind {f : Kind → Parser α} {g : Nat → Kind → Parser α} (some : 1 ≤ least)
    (h : ∀ c : Cursor, c.Ended →
      RepeatsAt c s least view (f c.current.kind) (fun m => g m c.current.kind)) :
    Repeats s least view (Parser.kind >>= f) (fun m => Parser.kind >>= g m) := by
  intro c ended c' a run
  obtain ⟨ks, took, long, again⟩ := h c ended run
  refine ⟨ks, took, long, fun free m enough d d' tookD stands => ?_⟩
  obtain ⟨b, runD, same⟩ := again free m enough tookD stands
  refine ⟨b, (kind_bind (g m) d).trans ?_, same⟩
  cases ks with
  | nil => exact absurd long (by simp; omega)
  | cons k ks => rwa [tookD.head, ← took.head]

end Combining

/-! ## Levels with operators -/

/-- The parsers of all levels are repeated by those with enough fuel. -/
def Repeated (sub : Level → Parser Expr) : Prop :=
  ∀ l, Repeats (l.rank + 1) 1 Expr.erase (sub l) (fun m => level m l)

private theorem Repeated.later {sub : Level → Parser Expr} (repeated : Repeated sub) (l : Level) :
    Repeats 13 1 Expr.erase (sub l) (fun m => level m l) :=
  (repeated l).mono (Nat.succ_le_succ l.rank_le) (Nat.le_refl 1)

private theorem Repeated.loose {sub : Level → Parser Expr} (repeated : Repeated sub) (l : Level) :
    Repeats 13 0 Expr.erase (sub l) (fun m => level m l) :=
  (repeated.later l).mono (Nat.le_refl 13) (Nat.zero_le 1)

private theorem Repeated.required {sub : Level → Parser Expr} (repeated : Repeated sub)
    (l : Level) :
    Repeats 13 0 Expr.erase (required (sub l)) (fun m => required (level m l)) :=
  ((repeated.later l).required (Nat.le_refl 1)).mono (Nat.le_refl 13) (Nat.zero_le 1)

theorem exists_tail {l : Level} (loose : l ≠ .primary) :
    ∃ tail : (Level → Parser Expr) → Nat → Expr → Parser Expr,
      (∀ sub fuel, atLevel sub fuel l = sub (Grammar.tighter l) >>= tail sub fuel) ∧
      ∀ sub fuel, Repeated sub → ∀ e e' : Expr, e'.erase = e.erase →
        Repeats 13 0 Expr.erase (tail sub fuel e) (fun m => tail (level m) m e') := by
  have quiet {β : Type} (see : Kind → β) (all : ∀ k ∈ stops, see k = see (.symbol .comma)) :
      ∀ k, Stop k → see k = see (.symbol .comma) := all
  cases l with
  | assignment =>
    refine ⟨_, fun sub fuel => rfl, fun sub fuel repeated target target' same => ?_⟩
    refine Repeats.location.andThen fun l l' _ => ?_
    refine (Repeats.kind (quiet assignForm? (by decide))).andThen fun k k' form => ?_
    rw [form]
    cases assignForm? k with
    | none => exact .pure same
    | some form =>
      refine Repeats.advance.andThen fun _ _ _ => (repeated.required _).andThen fun v v' same' => ?_
      cases form <;> exact .pure (by simp only [Expr.erase, same, same'])
  | ternary =>
    refine ⟨_, fun sub fuel => rfl, fun sub fuel repeated condition condition' same => ?_⟩
    refine Repeats.location.andThen fun l l' _ => ?_
    refine .ifSymbol (n := 0) (fun stop => absurd stop (by decide)) ?_ (.pure same) (Nat.zero_le _)
      (by decide : 13 ≤ _) (Nat.le_refl _)
    refine (repeated.required _).andThen fun a a' sameTrue => ?_
    refine ((Repeats.expectSymbol _ _).mono (Nat.le_refl _) (Nat.zero_le 1)).andThen fun _ _ _ => ?_
    refine (repeated.required _).andThen fun b b' sameFalse => .pure ?_
    simp only [Expr.erase, same, sameTrue, sameFalse]
  | chain chain =>
    refine ⟨fun sub fuel => chainTail chain.operator? (sub chain.operand) fuel, fun sub fuel => ?_,
      fun sub fuel repeated left left' same => ?_⟩
    · rw [← Grammar.operand_eq_tighter]
      rfl
    · exact .chainTail chain (repeated.later chain.operand) fuel (i := 0) (by decide)
        (Nat.le_refl 13) same
  | concatenation =>
    refine ⟨_, fun sub fuel => rfl, fun sub fuel repeated left left' same => ?_⟩
    refine (Repeats.kind (quiet joins (by decide))).andThen fun k k' joined => ?_
    rw [joined]
    cases joins k with
    | false => exact .pure same
    | true =>
      refine Repeats.location.andThen fun l l' _ => (repeated.loose _).andThen fun r r' same' => ?_
      exact .pure (by simp only [Expr.erase, same, same'])
  | exponent =>
    refine ⟨_, fun sub fuel => rfl, fun sub fuel repeated left left' same => ?_⟩
    refine Repeats.location.andThen fun l l' _ => ?_
    refine .ifSymbol (n := 0) (fun stop => absurd stop (by decide)) ?_ (.pure same) (Nat.zero_le _)
      (by decide : 13 ≤ _) (Nat.le_refl _)
    refine (repeated.required _).andThen fun right right' same' => .pure ?_
    simp only [Expr.erase, same, same']
  | step =>
    refine ⟨_, fun sub fuel => rfl, fun sub fuel repeated operand operand' same => ?_⟩
    refine Repeats.location.andThen fun l l' _ => ?_
    refine (Repeats.kind (quiet trailingStep? (by decide))).andThen fun k k' op => ?_
    rw [op]
    cases trailingStep? k with
    | none => exact .pure same
    | some op =>
      exact Repeats.advance.andThen fun _ _ _ =>
        .pure (by simp only [Expr.erase, Expr.stepBy, same])
  | primary => exact absurd rfl loose

/-! ## Operands -/

section Operands

variable {sub : Level → Parser Expr} (repeated : Repeated sub)
include repeated

private theorem repeats_callArgs (fuel : Nat) :
    Repeats 13 0 (List.map Expr.erase) (callArgs sub fuel) (fun m => callArgs (level m) m) := by
  have item := (repeated.later .assignment).separated (Nat.le_refl 1)
  have rest := Repeats.commaTail item fuel (i := 0) (s := 29) (by decide) (by decide)
  have close := (Repeats.expectSymbol (s := 29) .rightParen .closeParenExpected).mono
    (Nat.le_refl 29) (Nat.zero_le 1)
  have items := (repeated.later .assignment).further fun e e' same =>
    rest.andThen fun es es' sames => close.andThen fun _ _ _ =>
      Repeats.pure (show (e' :: es').map Expr.erase = (e :: es).map Expr.erase by
        rw [List.map_cons, List.map_cons, same, sames])
  have empty : Repeats 0 0 (List.map Expr.erase) (Pure.pure []) (fun _ => Pure.pure []) :=
    .pure rfl
  -- Without a closing parenthesis an argument is next, so a comma cannot end the tokens here.
  have whole := Repeats.ifSymbol (p := .rightParen) (fun _ => .inr (Nat.le_refl 1)) empty items
    (Nat.le_refl 1) (Nat.zero_le 29) (Nat.le_refl 13)
  exact Repeats.advance.andThen fun _ _ _ => whole.mono (Nat.le_refl 13) (Nat.zero_le 1)

private theorem repeats_call (text : String) (fuel : Nat) (l l' : Location) :
    Repeats 13 0 Expr.erase (do return .call text (← callArgs sub fuel) l)
      (fun m => do return .call text (← callArgs (level m) m) l') := by
  refine (repeats_callArgs repeated fuel).andThen fun args args' same => .pure ?_
  rw [Expr.erase_call, Expr.erase_call, same]

private theorem repeats_ifParen {x : Parser Expr} {y : Nat → Parser Expr} (text : String)
    (fuel : Nat) (l l' : Location) (bare : Repeats 13 0 Expr.erase x y) :
    Repeats 13 0 Expr.erase
      (do if ← atSymbol .leftParen then return .call text (← callArgs sub fuel) l else x)
      (fun m => do
        if ← atSymbol .leftParen then return .call text (← callArgs (level m) m) l' else y m) := by
  refine (Repeats.atSymbol (by decide)).andThen fun b b' same => ?_
  obtain rfl : b' = b := same
  cases b' with
  | true => exact repeats_call repeated text fuel l l'
  | false => exact bare

variable {c : Cursor} {l l' : Location} {fuel : Nat} (ended : c.Ended)
include ended

private theorem repeatsAt_name {text : String} (here : c.current.kind = .word text) :
    RepeatsAt c 0 1 Expr.erase (name text sub fuel l) (fun m => name text (level m) m l') := by
  refine .behind ended (by simp [here]) (repeats_ifParen repeated text fuel l l' ?_)
  refine .ifSymbol (n := 0) (fun stop => absurd stop (by decide)) ?_ (.pure rfl) (Nat.zero_le _)
    (by decide : 13 ≤ _) (Nat.le_refl _)
  refine (repeated.loose .assignment).andThen fun index index' same => ?_
  refine ((Repeats.expectSymbol _ _).mono (Nat.le_refl _) (Nat.zero_le 1)).andThen fun _ _ _ => ?_
  exact .pure (by simp only [Expr.erase, same])

private theorem repeatsAt_keywordCall {k : Keyword} {text : String}
    (here : c.current.kind = .keyword k) :
    RepeatsAt c 0 1 Expr.erase (keywordCall text sub fuel l)
      (fun m => keywordCall text (level m) m l') :=
  .behind ended (by simp [here]) (repeats_ifParen repeated text fuel l l' (.pure rfl))

private theorem repeatsAt_exitCall (here : c.current.kind = .keyword .exit) :
    RepeatsAt c 0 1 Expr.erase (exitCall sub fuel l) (fun m => exitCall (level m) m l') := by
  refine .behind ended (by simp [here]) (repeats_ifParen repeated "exit" fuel l l' ?_)
  refine Repeats.atExpression.andThen fun b b' same => ?_
  obtain rfl : b' = b := same
  cases b' with
  | false => exact .pure rfl
  | true =>
    refine (repeated.loose .assignment).andThen fun status status' same => .pure ?_
    simp only [Expr.erase_call, List.map_cons, List.map_nil, same]

private theorem repeatsAt_leading {op : Operator} (low : Level) (more : c.current.kind ≠ .eof) :
    RepeatsAt c 0 1 Expr.erase (leading op (sub low) l)
      (fun m => leading op (level m low) l') := by
  refine .behind ended more ((repeated.required low).andThen fun e e' same => .pure ?_)
  simp only [Expr.erase, same]

private theorem repeatsAt_leadingStep {op : Operator} (low : Level) (more : c.current.kind ≠ .eof) :
    RepeatsAt c 0 1 Expr.erase (leadingStep op (sub low) l)
      (fun m => leadingStep op (level m low) l') := by
  refine .behind ended more ((repeated.required low).andThen fun e e' same => .pure ?_)
  simp only [Expr.stepBy, Expr.erase, same]

private theorem repeatsAt_group (more : c.current.kind ≠ .eof) :
    RepeatsAt c 0 1 Expr.erase
      (do
        advance
        let inner ← sub .assignment
        expectSymbol .rightParen .closeParenExpected
        return inner)
      (fun m => do
        advance
        let inner ← level m .assignment
        expectSymbol .rightParen .closeParenExpected
        return inner) := by
  refine .behind ended more ((repeated.loose .assignment).andThen fun e e' same => ?_)
  exact ((Repeats.expectSymbol _ _).mono (Nat.le_refl _) (Nat.zero_le 1)).andThen fun _ _ _ =>
    .pure same

omit repeated in
private theorem repeatsAt_literal {e : Expr} (more : c.current.kind ≠ .eof) :
    RepeatsAt c 0 1 Expr.erase (do advance; return e) (fun _ => do advance; return e) :=
  .behind ended more (.pure rfl)

omit repeated in
private theorem repeatsAt_print (reads : ∀ l, Reads (sub l) (Grammar.Derives l)) {k : Keyword}
    (printing : k ∈ [Keyword.print, .printf]) (here : c.current.kind = .keyword k)
    {y : Nat → Parser Expr} :
    RepeatsAt c 0 1 Expr.erase
      (do advance; return .call k.spelling (← printArgs sub fuel) l) y := by
  intro c' e run
  obtain ⟨ks, took, derives⟩ := printCall_reads reads printing ended here run
  cases ks with
  | nil => exact absurd rfl derives.ne_nil
  | cons j js =>
    refine ⟨_, took, Nat.le_add_left 1 _, fun free => ?_⟩
    have none := free j List.mem_cons_self
    rw [← took.head, here] at none
    simp only [List.mem_cons, List.not_mem_nil, or_false] at printing
    rcases printing with rfl | rfl
    · exact absurd rfl none.1
    · exact absurd rfl none.2

end Operands

private theorem repeats_primary {sub : Level → Parser Expr} (repeated : Repeated sub)
    (reads : ∀ l, Reads (sub l) (Grammar.Derives l)) (fuel : Nat) :
    Repeats 0 1 Expr.erase (primary sub fuel) (fun m => primary (level m) m) := by
  refine Repeats.location.andThen fun l l' _ => Repeats.byKind (Nat.le_refl 1) fun c ended => ?_
  generalize here : c.current.kind = k
  have more (given : k ≠ .eof) : c.current.kind ≠ .eof := here ▸ given
  split
  · exact repeatsAt_literal ended (more nofun)
  · exact repeatsAt_literal ended (more nofun)
  · exact repeatsAt_literal ended (more nofun)
  · exact repeatsAt_name repeated ended here
  · exact repeatsAt_group repeated ended (more nofun)
  · exact repeatsAt_leading repeated ended .exponent (more nofun)
  · exact repeatsAt_leading repeated ended .exponent (more nofun)
  · exact repeatsAt_leading repeated ended .exponent (more nofun)
  · exact repeatsAt_leading repeated ended .primary (more nofun)
  · exact repeatsAt_leadingStep repeated ended .primary (more nofun)
  · exact repeatsAt_leadingStep repeated ended .primary (more nofun)
  · exact repeatsAt_print ended reads (k := .print) (by decide) here
  · exact repeatsAt_print ended reads (k := .printf) (by decide) here
  · exact repeatsAt_keywordCall repeated ended here
  · exact repeatsAt_keywordCall repeated ended here
  · exact repeatsAt_keywordCall repeated ended here
  · exact repeatsAt_exitCall repeated ended here
  · exact Repeats.fail _ ended

private theorem repeats_atLevel {sub : Level → Parser Expr} (repeated : Repeated sub)
    (reads : ∀ l, Reads (sub l) (Grammar.Derives l)) (fuel : Nat) (l : Level) :
    Repeats l.rank 1 Expr.erase (atLevel sub fuel l) (fun m => atLevel (level m) m l) := by
  by_cases loose : l = .primary
  · subst loose
    exact repeats_primary repeated reads fuel
  · obtain ⟨tail, split, again⟩ := exists_tail loose
    have rank := Level.rank_tighter loose
    refine .congr ?_ fun m _ => split (level m) m
    rw [split]
    exact (repeated (Grammar.tighter l)).bind (again sub fuel repeated) (Nat.le_of_eq rank)
      (by omega) (Nat.le_refl 1)

theorem repeated_level (n : Nat) : Repeated (level n) := by
  induction n with
  | zero =>
    intro l c ended c' e run
    cases run
  | succ n ih =>
    intro l c ended c' e run
    obtain ⟨ks, took, some, again⟩ := repeats_atLevel ih (level_reads n) n l ended run
    refine ⟨ks, took, some, fun free m enough d d' tookD stands => ?_⟩
    obtain ⟨m, rfl⟩ : ∃ j, m = j + 1 := ⟨m - 1, by omega⟩
    exact again free m (by omega) tookD stands

end Parser

end PatternAction
