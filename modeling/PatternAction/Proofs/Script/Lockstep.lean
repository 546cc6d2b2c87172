import PatternAction.Proofs.Script.Built
import PatternAction.Proofs.Script.Derivation

/-!
Two parsers in lockstep, on two sequences of tokens of the same kinds.  They refuse with the same
words or answer alike, and then they stand in front of tokens of the same kinds again.  Along the
way a parser moves forward only, over tokens in front of the end, and it has fuel enough wherever
no more tokens are left than it has room for; so running out of fuel is no outcome here.
-/

set_option autoImplicit false
set_option relaxedAutoImplicit false

namespace PatternAction

open Token (Kind)

namespace Cursor

/-- Two cursors in front of tokens of the same kinds, those of the first among given ones. -/
structure Alike (among : Token → Prop) (c d : Cursor) : Prop where
  ended : c.Ended
  kinds : c.rest.map (·.kind) = d.rest.map (·.kind)
  among : ∀ t ∈ c.rest, among t

/-- The second cursor is the first moved over tokens in front of the end, at least so many. -/
def Past (least : Nat) (c c' : Cursor) : Prop :=
  ∃ ks, c.Took ks c' ∧ Kind.eof ∉ ks ∧ least ≤ ks.length

theorem Past.refl (c : Cursor) : Past 0 c c :=
  ⟨[], .refl c, by simp, Nat.le_refl 0⟩

theorem Past.trans {m n : Nat} {a b c : Cursor} (h : Past m a b) (h' : Past n b c) :
    Past (n + m) a c := by
  obtain ⟨ks, took, front, long⟩ := h
  obtain ⟨js, took', front', long'⟩ := h'
  refine ⟨ks ++ js, took.trans took', ?_, ?_⟩
  · rw [List.mem_append, not_or]
    exact ⟨front, front'⟩
  · rw [List.length_append]
    omega

private theorem Past.mono {m n : Nat} {a b : Cursor} (h : Past n a b) (le : m ≤ n) :
    Past m a b := by
  obtain ⟨ks, took, front, long⟩ := h
  exact ⟨ks, took, front, Nat.le_trans le long⟩

private theorem Past.remaining {n : Nat} {a b : Cursor} (h : Past n a b) :
    b.remaining + n ≤ a.remaining := by
  obtain ⟨ks, ⟨used, moved, rfl⟩, -, long⟩ := h
  have lengths := congrArg List.length moved.rest
  simp only [Cursor.rest, List.length_cons, List.length_append] at lengths
  rw [List.length_map] at long
  rw [Cursor.remaining, Cursor.remaining]
  omega

namespace Alike

variable {among : Token → Prop} {c d : Cursor}

theorem kind (h : c.Alike among d) : c.current.kind = d.current.kind :=
  (List.cons.inj h.kinds).1

theorem current (h : c.Alike among d) : among c.current :=
  h.among _ List.mem_cons_self

private theorem remaining (h : c.Alike among d) : c.remaining = d.remaining := by
  have lengths := congrArg List.length h.kinds
  simpa [Cursor.rest, Cursor.remaining] using lengths

theorem check (h : c.Alike among d) (k : Kind) : c.check k = d.check k := by
  rw [Cursor.check, Cursor.check, h.kind]

private theorem more (h : c.Alike among d) : c.more = d.more := by
  rw [Cursor.more, Cursor.more, h.kind]

private theorem second_ended (h : c.Alike among d) : d.Ended := by
  obtain ⟨front, t, split, eof⟩ := h.ended
  have kinds : d.rest.map (·.kind) = front.map (·.kind) ++ [Kind.eof] := by
    rw [← h.kinds, split, List.map_append, ← eof]
    rfl
  obtain ⟨us, vs, whole, -, last⟩ := List.map_eq_append_iff.mp kinds
  obtain ⟨u, rfl, eof'⟩ := List.map_eq_singleton_iff.mp last
  exact ⟨us, u, whole, eof'⟩

private theorem behind {t u : Token} {c' d' : Cursor} (h : c.Alike among d) (hc : c.Moved [t] c')
    (hd : d.Moved [u] d') : c'.Alike among d' := by
  have kinds := h.kinds
  rw [hc.rest, hd.rest] at kinds
  refine ⟨hc.ended h.ended, (List.cons.inj kinds).2, fun s mem => h.among s ?_⟩
  rw [hc.rest]
  exact List.mem_cons_of_mem _ mem

theorem advance (h : c.Alike among d) : c.advance.2.Alike among d.advance.2 := by
  by_cases eof : c.current.kind = .eof
  · rwa [advance_of_eof eof, advance_of_eof (h.kind ▸ eof)]
  · exact h.behind (moved_advance h.ended eof)
      (moved_advance h.second_ended (h.kind ▸ eof))

private theorem behindSeparators {p q ts us : List Token} {t u : Token}
    (h : Alike among ⟨p, t, ts⟩ ⟨q, u, us⟩) :
    (behindSeparators p t ts).Alike among (behindSeparators q u us) := by
  induction ts generalizing p q t u us with
  | nil =>
    cases us with
    | nil => exact h
    | cons u' us => cases (List.cons.inj h.kinds).2
  | cons t' ts ih =>
    cases us with
    | nil => cases (List.cons.inj h.kinds).2
    | cons u' us =>
      have kind : t.kind = u.kind := h.kind
      simp only [Cursor.behindSeparators, ← kind]
      split
      · exact ih (h.behind (t := t) (u := u) ⟨rfl, rfl⟩ ⟨rfl, rfl⟩)
      · exact h

theorem skipSeparators (h : c.Alike among d) :
    c.skipSeparators.2.Alike among d.skipSeparators.2 :=
  h.behindSeparators

end Alike

private theorem past_advance {c : Cursor} (ended : c.Ended) (h : c.current.kind ≠ .eof) :
    Past 1 c c.advance.2 := by
  refine ⟨_, took_advance ended rfl h, ?_, Nat.le_refl 1⟩
  rw [List.mem_singleton]
  exact Ne.symm h

theorem past_advance_any {c : Cursor} (ended : c.Ended) : Past 0 c c.advance.2 := by
  by_cases eof : c.current.kind = .eof
  · rw [advance_of_eof eof]
    exact .refl c
  · exact (past_advance ended eof).mono (Nat.zero_le 1)

theorem past_skipSeparators (c : Cursor) : Past 0 c c.skipSeparators.2 := by
  obtain ⟨gap, separators, took⟩ := took_skipSeparators c
  refine ⟨gap, took, fun mem => ?_, Nat.zero_le _⟩
  cases separators _ mem

private theorem ne_eof_of_check {c : Cursor} {k : Kind} (h : c.check k = true) (ne : k ≠ .eof) :
    c.current.kind ≠ .eof := by
  intro eof
  rw [Cursor.check, eof] at h
  cases k <;> simp_all [Kind.sameAs]

end Cursor

namespace Parser

variable {α β γ δ : Type} {among : Token → Prop}

private theorem accept_bind (k : Kind) (f : Bool → Parser γ) (c : Cursor) :
    (accept k >>= f) c =
      if c.check k = true then (advance >>= fun _ => f true) c else f false c := by
  have run : accept k c = .ok (c.check k, if c.check k = true then c.advance.2 else c) := by
    rw [accept, get_bind, Cursor.take?]
    cases c.check k <;> rfl
  rw [bind_run run]
  cases c.check k <;> rfl

private theorem word?_bind (f : Option String → Parser γ) (c : Cursor) :
    (word? >>= f) c = match c.current.kind with
      | .word text => (advance >>= fun _ => f (some text)) c
      | _ => f none c := by
  rw [word?, bind_assoc, kind_bind]
  cases c.current.kind <;> rfl

/-- Two outcomes of parsers in lockstep from `c` on. -/
inductive Outcome (among : Token → Prop) (R : α → β → Prop) (least : Nat) (c : Cursor) :
    Except (Halt ParseFault) (α × Cursor) → Except (Halt ParseFault) (β × Cursor) → Prop
  | ok {a : α} {b : β} {c' d' : Cursor} :
      R a b → c'.Alike among d' → c.Past least c' →
        Outcome among R least c (.ok (a, c')) (.ok (b, d'))
  | fault {f g : ParseFault} :
      f.cause = g.cause → f.found.kind = g.found.kind → among f.found →
      Outcome among R least c (.error (.fault f)) (.error (.fault g))

private theorem Outcome.mono {R : α → β → Prop} {least least' : Nat} {c : Cursor}
    {o : Except (Halt ParseFault) (α × Cursor)} {o' : Except (Halt ParseFault) (β × Cursor)}
    (h : Outcome among R least c o o') (le : least' ≤ least) : Outcome among R least' c o o' := by
  cases h with
  | ok related alike past => exact .ok related alike (past.mono le)
  | fault cause kind found => exact .fault cause kind found

private theorem Outcome.after {R : α → β → Prop} {least least' : Nat} {c c' : Cursor}
    {o : Except (Halt ParseFault) (α × Cursor)} {o' : Except (Halt ParseFault) (β × Cursor)}
    (past : c.Past least c') (h : Outcome among R least' c' o o') :
    Outcome among R (least' + least) c o o' := by
  cases h with
  | ok related alike past' => exact .ok related alike (past.trans past')
  | fault cause kind found => exact .fault cause kind found

/-- Two parsers in lockstep wherever at most `room` tokens are left: they answer alike and move over
at least `least` tokens, or refuse alike. -/
def Lockstep (among : Token → Prop) (room least : Nat) (R : α → β → Prop) (x : Parser α)
    (y : Parser β) : Prop :=
  ∀ ⦃c d : Cursor⦄, c.Alike among d → c.remaining ≤ room → Outcome among R least c (x c) (y d)

/-- Two parsers in lockstep wherever, besides, the current token is not the end. -/
def LockstepInFront (among : Token → Prop) (room least : Nat) (R : α → β → Prop) (x : Parser α)
    (y : Parser β) : Prop :=
  ∀ ⦃c d : Cursor⦄, c.Alike among d → c.remaining ≤ room → c.current.kind ≠ .eof →
    Outcome among R least c (x c) (y d)

theorem LockstepInFront.advance {room least : Nat} {R : α → β → Prop} {f : Unit → Parser α}
    {g : Unit → Parser β} (next : ∀ r, r + 1 ≤ room → Lockstep among r least R (f ()) (g ())) :
    LockstepInFront among room (least + 1) R (advance >>= f) (advance >>= g) := by
  intro c d alike fits more
  have past := Cursor.past_advance alike.ended more
  have left := past.remaining
  exact .after past (next c.advance.2.remaining (by omega) alike.advance (Nat.le_refl _))

namespace Lockstep

variable {room least : Nat} {R : α → β → Prop} {S : γ → δ → Prop} {x : Parser α} {y : Parser β}

theorem slack (h : Lockstep among room least R x y) : Lockstep among room 0 R x y :=
  fun _ _ alike fits => (h alike fits).mono (Nat.zero_le least)

theorem bind {f : α → Parser γ} {g : β → Parser δ} {least' : Nat}
    (first : Lockstep among room least R x y)
    (next : ∀ a b r, R a b → r + least ≤ room → Lockstep among r least' S (f a) (g b)) :
    Lockstep among room (least' + least) S (x >>= f) (y >>= g) := by
  intro c d alike fits
  change Outcome among S _ c (x c >>= fun r => f r.1 r.2) (y d >>= fun r => g r.1 r.2)
  have outcome := first alike fits
  generalize x c = o, y d = o' at outcome
  cases outcome with
  | fault cause kind found => exact .fault cause kind found
  | @ok a b c' d' related alike' past =>
    have left := past.remaining
    exact .after past (next a b c'.remaining related (by omega) alike' (Nat.le_refl _))

theorem narrow {r : Nat} (h : Lockstep among room least R x y) (le : r ≤ room) :
    Lockstep among r least R x y :=
  fun _ _ alike fits => h alike (Nat.le_trans fits le)

theorem andThen {f : α → Parser γ} {g : β → Parser δ} (first : Lockstep among room 0 R x y)
    (next : ∀ a b, R a b → Lockstep among room least S (f a) (g b)) :
    Lockstep among room least S (x >>= f) (y >>= g) :=
  first.bind fun a b _ related le => (next a b related).narrow le

theorem within {f : α → Parser γ} {g : β → Parser δ} (first : Lockstep among room least R x y)
    (next : ∀ a b r, R a b → r + least ≤ room → Lockstep among r 0 S (f a) (g b)) :
    Lockstep among room 0 S (x >>= f) (y >>= g) :=
  (first.bind next).slack

theorem pure {a : α} {b : β} (h : R a b) :
    Lockstep among room 0 R (Pure.pure a) (Pure.pure b) :=
  fun c _ alike _ => .ok h alike (.refl c)

theorem fail (cause : ParseCause) :
    Lockstep among room least R (Parser.fail cause) (Parser.fail cause) :=
  fun _ _ alike _ => .fault rfl alike.kind alike.current

theorem ite {b : Bool} {x' : Parser α} {y' : Parser β} (yes : Lockstep among room least R x y)
    (no : Lockstep among room least R x' y') :
    Lockstep among room least R (if b = true then x else x') (if b = true then y else y') := by
  cases b with
  | true => exact yes
  | false => exact no

private theorem look {f : Cursor → α} {g : Cursor → β}
    (h : ∀ c d, c.Alike among d → R (f c) (g d)) :
    Lockstep among room 0 R (fun c => .ok (f c, c)) (fun c => .ok (g c, c)) :=
  fun c d alike _ => .ok (h c d alike) alike (.refl c)

theorem location : Lockstep among room 0 (fun l _ => Placed among l) location location :=
  look fun c _ alike => ⟨c.current, alike.current, rfl⟩

theorem kind : Lockstep among room 0 Eq kind kind :=
  look fun _ _ alike => alike.kind

theorem check (k : Kind) : Lockstep among room 0 Eq (check k) (check k) :=
  look fun _ _ alike => alike.check k

theorem atSymbol (s : Symbol) : Lockstep among room 0 Eq (atSymbol s) (atSymbol s) :=
  check (.symbol s)

theorem more : Lockstep among room 0 Eq more more :=
  look fun _ _ alike => alike.more

theorem atExpression : Lockstep among room 0 Eq atExpression atExpression :=
  look fun _ _ alike => congrArg Kind.startsExpression alike.kind

theorem advance : Lockstep among room 0 Eq advance advance :=
  fun _ _ alike _ => .ok rfl alike.advance (Cursor.past_advance_any alike.ended)

theorem skipSeparators : Lockstep among room 0 Eq skipSeparators skipSeparators :=
  fun c _ alike _ => .ok rfl alike.skipSeparators (Cursor.past_skipSeparators c)

theorem sized {x : Nat → Parser α} {y : Nat → Parser β}
    (h : ∀ n, Lockstep among n least R (x n) (y n)) :
    Lockstep among room least R (fun c => x c.remaining c) (fun c => y c.remaining c) := by
  intro c d alike _
  change Outcome among R least c (x c.remaining c) (y d.remaining d)
  rw [← alike.remaining]
  exact h c.remaining alike (Nat.le_refl _)

theorem test {t : Parser Bool} {x' : Parser α} {y' : Parser β}
    (h : Lockstep among room 0 Eq t t) (yes : Lockstep among room least R x y)
    (no : Lockstep among room least R x' y') :
    Lockstep among room least R (do if ← t then x else x') (do if ← t then y else y') :=
  h.andThen fun _ _ same => same ▸ ite yes no

private theorem accepted {k : Kind} {f : Bool → Parser α} {g : Bool → Parser β} (ne : k ≠ .eof)
    (yes : ∀ r, r + 1 ≤ room → Lockstep among r (least - 1) R (f true) (g true))
    (no : Lockstep among room least R (f false) (g false)) :
    Lockstep among room least R (accept k >>= f) (accept k >>= g) := by
  intro c d alike fits
  rw [accept_bind, accept_bind, ← alike.check k]
  split
  · rename_i found
    have front := LockstepInFront.advance (f := fun _ => f true) (g := fun _ => g true) yes
    exact (front alike fits (Cursor.ne_eof_of_check found ne)).mono (by omega)
  · exact no alike fits

private theorem ifAccepted {k : Kind} {x' : Parser α} {y' : Parser β} (ne : k ≠ .eof)
    (yes : ∀ r, r + 1 ≤ room → Lockstep among r (least - 1) R x y)
    (no : Lockstep among room least R x' y') :
    Lockstep among room least R (do if ← accept k then x else x')
      (do if ← accept k then y else y') :=
  accepted ne yes no

theorem ifSymbol (s : Symbol) {x' : Parser α} {y' : Parser β}
    (yes : ∀ r, r + 1 ≤ room → Lockstep among r (least - 1) R x y)
    (no : Lockstep among room least R x' y') :
    Lockstep among room least R (do if ← acceptSymbol s then x else x')
      (do if ← acceptSymbol s then y else y') :=
  ifAccepted nofun yes no

theorem ifKeyword (k : Keyword) {x' : Parser α} {y' : Parser β}
    (yes : ∀ r, r + 1 ≤ room → Lockstep among r (least - 1) R x y)
    (no : Lockstep among room least R x' y') :
    Lockstep among room least R (do if ← acceptKeyword k then x else x')
      (do if ← acceptKeyword k then y else y') :=
  ifAccepted nofun yes no

theorem expectSymbol (s : Symbol) (cause : ParseCause) :
    Lockstep among room 0 Eq (expectSymbol s cause) (expectSymbol s cause) :=
  ifSymbol s (fun _ _ => pure rfl) (fail cause)

theorem expectSeparator : Lockstep among room 0 Eq expectSeparator expectSeparator :=
  ifAccepted nofun (fun _ _ => pure rfl) (fail .separatorExpected)

theorem word {f : Option String → Parser α} {g : Option String → Parser β}
    (yes : ∀ text r, Worded among text → r + 1 ≤ room →
      Lockstep among r (least - 1) R (f (some text)) (g (some text)))
    (no : Lockstep among room least R (f none) (g none)) :
    Lockstep among room least R (word? >>= f) (word? >>= g) := by
  intro c d alike fits
  rw [word?_bind, word?_bind, ← alike.kind]
  cases kind : c.current.kind with
  | word text =>
    have worded : Worded among text := ⟨c.current, alike.current, kind⟩
    have front := LockstepInFront.advance (f := fun _ => f (some text))
      (g := fun _ => g (some text)) fun r => yes text r worded
    exact (front alike fits (by simp [kind])).mono (by omega)
  | _ => exact no alike fits

theorem required (h : Lockstep among room least R x y) :
    Lockstep among room least R (required x) (required y) :=
  test atExpression h (fail .expressionExpected)

theorem wholeStatement? (h : Lockstep among room least R x y) :
    Lockstep among room 0 (Option.Rel R) (wholeStatement? x) (wholeStatement? y) := by
  intro c d alike fits
  have outcome := h alike fits
  unfold Parser.wholeStatement?
  generalize x c = o, y d = o' at outcome
  cases outcome with
  | ok related alike' past =>
    simp only [← alike'.kind]
    split
    · exact .ok (.some related) alike' (past.mono (Nat.zero_le _))
    · exact .ok .none alike (.refl c)
  | fault => exact .ok .none alike (.refl c)

theorem commaTail {forget : α → α} {P : α → Prop} {next : Parser α} {n : Nat}
    (h : Lockstep among room 1 (Alike forget P) next next) (fuel : room < n) :
    Lockstep among room 0 (Alike.Listed forget P) (commaTail next n) (commaTail next n) := by
  induction n generalizing room with
  | zero => omega
  | succ n ih =>
    refine ifSymbol .comma (fun r le => ?_) (pure .nil)
    have inner := h.narrow (Nat.le_of_succ_le le)
    refine inner.slack.andThen fun _ _ first => ?_
    exact (ih inner (by omega)).andThen fun _ _ rest => pure (.cons first rest)

end Lockstep

end Parser

end PatternAction
