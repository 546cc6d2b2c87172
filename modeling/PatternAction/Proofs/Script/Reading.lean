import PatternAction.Script.ExprParser

/-!
What the small parsers do at a cursor.  `Moved` says that one cursor is another one taken over some
tokens, which is what every successful parser does, and `Took` says of which kinds they are; the
equations below run a parser one step at a time.
-/

set_option autoImplicit false
set_option relaxedAutoImplicit false

namespace PatternAction

open Token (Kind)

namespace Cursor

def rest (c : Cursor) : List Token :=
  c.current :: c.ahead

/-- The last token is an end; every cursor made from a sequence of tokens is like this. -/
def Ended (c : Cursor) : Prop :=
  ∃ front t, c.rest = front ++ [t] ∧ t.kind = .eof

/-- The cursor `c'` is `c` moved over exactly the tokens `used`. -/
structure Moved (c : Cursor) (used : List Token) (c' : Cursor) : Prop where
  passed : c'.passed = used.reverse ++ c.passed
  rest : c.rest = used ++ c'.rest

private theorem Moved.refl (c : Cursor) : c.Moved [] c :=
  ⟨rfl, rfl⟩

private theorem Moved.trans {a b c : Cursor} {us vs : List Token} (h : a.Moved us b)
    (h' : b.Moved vs c) :
    a.Moved (us ++ vs) c := by
  refine ⟨?_, ?_⟩
  · rw [h'.passed, h.passed, List.reverse_append, List.append_assoc]
  · rw [h.rest, h'.rest, List.append_assoc]

theorem ended_of_append {xs front : List Token} {t : Token} {c : Cursor}
    (split : xs ++ c.rest = front ++ [t]) (eof : t.kind = .eof) : c.Ended := by
  have nonempty : c.rest ≠ [] := by simp [Cursor.rest]
  refine ⟨c.rest.dropLast, t, ?_, eof⟩
  have last : c.rest.getLast nonempty = t := by
    have whole : (xs ++ c.rest).getLast (by simp [nonempty]) = t := by simp [split]
    rwa [List.getLast_append_of_ne_nil _ nonempty] at whole
  rw [← last, List.dropLast_concat_getLast]

theorem Moved.ended {c c' : Cursor} {used : List Token} (h : c.Moved used c') (ended : c.Ended) :
    c'.Ended := by
  obtain ⟨front, t, split, eof⟩ := ended
  exact ended_of_append (h.rest ▸ split) eof

theorem advance_of_eof {c : Cursor} (h : c.current.kind = .eof) : c.advance.2 = c := by
  simp [advance, more, h]

private theorem advance_of_ahead {c : Cursor} {t : Token} {ts : List Token}
    (h : c.current.kind ≠ .eof)
    (ahead : c.ahead = t :: ts) : c.advance.2 = ⟨c.current :: c.passed, t, ts⟩ := by
  have more : c.more = true := by simpa [Cursor.more] using h
  simp only [advance, more, if_true, forward]
  rw [ahead]

theorem moved_advance {c : Cursor} (ended : c.Ended) (h : c.current.kind ≠ .eof) :
    c.Moved [c.current] c.advance.2 := by
  cases ahead : c.ahead with
  | nil =>
    obtain ⟨front, t, split, eof⟩ := ended
    rw [Cursor.rest, ahead] at split
    cases front with
    | nil =>
      obtain ⟨rfl, -⟩ := List.cons.inj split
      exact absurd eof h
    | cons u front => simp at split
  | cons t ts =>
    rw [advance_of_ahead h ahead]
    exact ⟨rfl, by rw [Cursor.rest, ahead]; rfl⟩

theorem moved_behindSeparators (passed : List Token) (current : Token) (ahead : List Token) :
    ∃ used, (∀ t ∈ used, t.kind = .separator) ∧
      Moved ⟨passed, current, ahead⟩ used (behindSeparators passed current ahead) := by
  induction ahead generalizing passed current with
  | nil => exact ⟨[], by simp, .refl _⟩
  | cons t ts ih =>
    simp only [behindSeparators]
    split
    · rename_i separator
      obtain ⟨used, all, moved⟩ := ih (current :: passed) t
      refine ⟨current :: used, ?_, ⟨?_, ?_⟩⟩
      · simpa [separator] using all
      · simpa using moved.passed
      · simpa [Cursor.rest] using moved.rest
    · exact ⟨[], by simp, .refl _⟩

/-- The cursor `c'` is `c` moved over tokens of the kinds `ks`. -/
def Took (c : Cursor) (ks : List Kind) (c' : Cursor) : Prop :=
  ∃ used, c.Moved used c' ∧ used.map (·.kind) = ks

theorem Took.refl (c : Cursor) : c.Took [] c :=
  ⟨[], .refl c, rfl⟩

theorem Took.trans {a b c : Cursor} {ks js : List Kind} (h : a.Took ks b) (h' : b.Took js c) :
    a.Took (ks ++ js) c := by
  obtain ⟨us, moved, rfl⟩ := h
  obtain ⟨vs, moved', rfl⟩ := h'
  exact ⟨us ++ vs, moved.trans moved', List.map_append⟩

theorem Took.eq_of_nil {c c' : Cursor} (h : c.Took [] c') : c = c' := by
  obtain ⟨used, moved, kinds⟩ := h
  obtain rfl := List.map_eq_nil_iff.mp kinds
  obtain ⟨passed, current, ahead⟩ := c
  obtain ⟨passed', current', ahead'⟩ := c'
  obtain rfl : passed' = passed := moved.passed
  obtain ⟨rfl, rfl⟩ := List.cons.inj moved.rest
  rfl

theorem Took.unique {c c' : Cursor} {ks js : List Kind} (h : c.Took ks c') (h' : c.Took js c') :
    ks = js := by
  obtain ⟨us, moved, rfl⟩ := h
  obtain ⟨vs, moved', rfl⟩ := h'
  rw [List.append_cancel_right (moved.rest.symm.trans moved'.rest)]

theorem Took.ended {c c' : Cursor} {ks : List Kind} (h : c.Took ks c') (ended : c.Ended) :
    c'.Ended := by
  obtain ⟨used, moved, -⟩ := h
  exact moved.ended ended

theorem Took.head {c c' : Cursor} {k : Kind} {ks : List Kind} (h : c.Took (k :: ks) c') :
    c.current.kind = k := by
  obtain ⟨used, moved, kinds⟩ := h
  cases used with
  | nil => cases kinds
  | cons t used =>
    obtain ⟨rfl, -⟩ := List.cons.inj kinds
    exact congrArg Token.kind (List.cons.inj moved.rest).1

theorem Took.split {c c' : Cursor} {ks js : List Kind} (h : c.Took (ks ++ js) c') :
    ∃ m, c.Took ks m ∧ m.Took js c' := by
  obtain ⟨used, moved, kinds⟩ := h
  obtain ⟨us, vs, rfl, rfl, rfl⟩ := List.map_eq_append_iff.mp kinds
  obtain ⟨t, more, behind⟩ : ∃ t more, vs ++ c'.rest = t :: more := by
    cases vs with
    | nil => exact ⟨_, _, rfl⟩
    | cons v vs => exact ⟨_, _, rfl⟩
  refine ⟨⟨us.reverse ++ c.passed, t, more⟩, ⟨us, ⟨rfl, ?_⟩, rfl⟩, vs, ⟨?_, behind.symm⟩, rfl⟩
  · rw [moved.rest, List.append_assoc, behind]
    rfl
  · rw [moved.passed, List.reverse_append, List.append_assoc]

theorem Took.tail {c c' : Cursor} {k : Kind} {ks : List Kind} (h : c.Took (k :: ks) c')
    (more : k ≠ .eof) : c.advance.2.Took ks c' := by
  have here : c.current.kind ≠ .eof := h.head ▸ more
  obtain ⟨used, moved, kinds⟩ := h
  cases used with
  | nil => cases kinds
  | cons t used =>
    obtain ⟨first, behind⟩ := List.cons.inj moved.rest
    obtain ⟨u, us, next⟩ : ∃ u us, used ++ c'.rest = u :: us := by
      cases used with
      | nil => exact ⟨_, _, rfl⟩
      | cons u used => exact ⟨_, _, rfl⟩
    rw [advance_of_ahead here (behind.trans next)]
    refine ⟨used, ⟨?_, next.symm⟩, (List.cons.inj kinds).2⟩
    rw [moved.passed, first]
    simp

theorem took_advance {c : Cursor} {k : Kind} (ended : c.Ended) (h : c.current.kind = k)
    (more : k ≠ .eof) : c.Took [k] c.advance.2 := by
  subst h
  exact ⟨[c.current], moved_advance ended more, rfl⟩

theorem took_skipSeparators (c : Cursor) :
    ∃ gap, (∀ k ∈ gap, k = Kind.separator) ∧ c.Took gap c.skipSeparators.2 := by
  obtain ⟨used, all, moved⟩ := moved_behindSeparators c.passed c.current c.ahead
  refine ⟨used.map (·.kind), ?_, used, moved, rfl⟩
  intro k mem
  obtain ⟨t, ht, rfl⟩ := List.mem_map.mp mem
  exact all t ht

private theorem skipSeparators_of_ne {c : Cursor} (h : c.current.kind ≠ .separator) :
    c.skipSeparators.2 = c := by
  obtain ⟨passed, current, ahead⟩ := c
  cases ahead with
  | nil => rfl
  | cons t ts => exact if_neg h

private theorem behindSeparators_ne {passed : List Token} {current : Token} {ahead : List Token}
    (ended : Cursor.Ended ⟨passed, current, ahead⟩) :
    (behindSeparators passed current ahead).current.kind ≠ .separator := by
  induction ahead generalizing passed current with
  | nil =>
    obtain ⟨front, t, split, eof⟩ := ended
    have last : current = t := by
      cases front with
      | nil => exact (List.cons.inj split).1
      | cons u front => simp [Cursor.rest] at split
    simp [behindSeparators, last, eof]
  | cons t ts ih =>
    rw [behindSeparators]
    split
    · have moved : Moved ⟨passed, current, t :: ts⟩ [current] ⟨current :: passed, t, ts⟩ :=
        ⟨rfl, rfl⟩
      exact ih (moved.ended ended)
    · assumption

theorem skipSeparators_ne {c : Cursor} (ended : c.Ended) :
    c.skipSeparators.2.current.kind ≠ .separator :=
  behindSeparators_ne ended

theorem Took.skipSeparators {c c' : Cursor} {gap js : List Kind} {k : Kind}
    (separators : ∀ j ∈ gap, j = Kind.separator) (other : k ≠ .separator)
    (h : c.Took (gap ++ k :: js) c') : c.skipSeparators.2.Took (k :: js) c' := by
  induction gap generalizing c with
  | nil =>
    rwa [skipSeparators_of_ne (by rw [h.head]; exact other)]
  | cons j gap ih =>
    obtain rfl := separators j List.mem_cons_self
    have rest := ih (fun j mem => separators j (List.mem_cons_of_mem _ mem)) (h.tail nofun)
    obtain ⟨passed, current, ahead⟩ := c
    have here : current.kind = .separator := h.head
    cases ahead with
    | nil =>
      obtain ⟨used, moved, kinds⟩ := h
      have few := congrArg List.length moved.rest
      have many := congrArg List.length kinds
      simp [Cursor.rest] at few many
      omega
    | cons t ts =>
      rw [advance_of_ahead (by rw [here]; exact nofun) rfl] at rest
      rw [Cursor.skipSeparators, behindSeparators, if_pos here]
      exact rest

theorem check_symbol {c : Cursor} {s : Symbol} :
    c.check (.symbol s) = true ↔ c.current.kind = .symbol s := by
  unfold check Kind.sameAs
  split <;> simp_all

end Cursor

namespace Parser

variable {α β : Type}

/-! ## Running -/

theorem get_bind (f : Cursor → Parser β) (c : Cursor) : ((get : Parser Cursor) >>= f) c = f c c :=
  rfl

theorem kind_bind (f : Kind → Parser β) (c : Cursor) : (kind >>= f) c = f c.current.kind c :=
  rfl

theorem location_bind (f : Location → Parser β) (c : Cursor) :
    (location >>= f) c = f c.location c :=
  rfl

theorem atSymbol_bind (s : Symbol) (f : Bool → Parser β) (c : Cursor) :
    (atSymbol s >>= f) c = f (c.check (.symbol s)) c :=
  rfl

theorem atExpression_bind (f : Bool → Parser β) (c : Cursor) :
    (atExpression >>= f) c = f c.current.kind.startsExpression c :=
  rfl

theorem advance_bind (f : Unit → Parser β) (c : Cursor) : (advance >>= f) c = f () c.advance.2 :=
  rfl

theorem skipSeparators_bind (f : Unit → Parser β) (c : Cursor) :
    (skipSeparators >>= f) c = f () c.skipSeparators.2 :=
  rfl

theorem bind_run {p : Parser α} {f : α → Parser β} {c c₁ : Cursor} {a : α}
    (h : p c = .ok (a, c₁)) : (p >>= f) c = f a c₁ := by
  change (p c >>= fun r => f r.1 r.2) = f a c₁
  rw [h]
  rfl

private theorem acceptSymbol_true {s : Symbol} {c : Cursor} (h : c.current.kind = .symbol s) :
    acceptSymbol s c = .ok (true, c.advance.2) := by
  have found : c.take? (.symbol s) = some c.advance := by
    rw [Cursor.take?, if_pos (Cursor.check_symbol.mpr h)]
  rw [acceptSymbol, accept, get_bind, found]
  rfl

private theorem acceptSymbol_false {s : Symbol} {c : Cursor} (h : c.current.kind ≠ .symbol s) :
    acceptSymbol s c = .ok (false, c) := by
  have found : c.take? (.symbol s) = none := by
    rw [Cursor.take?, if_neg (mt Cursor.check_symbol.mp h)]
  rw [acceptSymbol, accept, get_bind, found]
  rfl

theorem acceptSymbol_bind (s : Symbol) (f : Bool → Parser β) (c : Cursor) :
    (acceptSymbol s >>= f) c =
      if c.current.kind = .symbol s then f true c.advance.2 else f false c := by
  by_cases h : c.current.kind = .symbol s
  · rw [if_pos h, bind_run (acceptSymbol_true h)]
  · rw [if_neg h, bind_run (acceptSymbol_false h)]

/-! ## Success -/

theorem bind_ok {p : Parser α} {f : α → Parser β} {c c' : Cursor} {b : β}
    (h : (p >>= f) c = .ok (b, c')) : ∃ a c₁, p c = .ok (a, c₁) ∧ f a c₁ = .ok (b, c') := by
  change (p c >>= fun r => f r.1 r.2) = .ok (b, c') at h
  cases first : p c with
  | error e =>
    rw [first] at h
    cases h
  | ok r =>
    rw [first] at h
    exact ⟨r.1, r.2, rfl, h⟩

theorem pure_ok {a b : α} {c c' : Cursor} (h : (pure a : Parser α) c = .ok (b, c')) :
    a = b ∧ c = c' :=
  Prod.mk.inj (Except.ok.inj h)

theorem required_ok {p : Parser α} {c c' : Cursor} {a : α} (h : required p c = .ok (a, c')) :
    p c = .ok (a, c') := by
  change (if c.current.kind.startsExpression then p else fail .expressionExpected) c = _ at h
  split at h
  · exact h
  · cases h

theorem expectSymbol_ok {s : Symbol} {cause : ParseCause} {c c' : Cursor}
    (h : expectSymbol s cause c = .ok ((), c')) :
    c.current.kind = .symbol s ∧ c' = c.advance.2 := by
  rw [expectSymbol, acceptSymbol_bind] at h
  split at h
  · exact ⟨‹_›, (pure_ok h).2.symm⟩
  · cases h

theorem wholeStatement?_ok {p : Parser α} {c c' : Cursor} {a? : Option α}
    (h : wholeStatement? p c = .ok (a?, c')) :
    (a? = none ∧ c' = c) ∨ ∃ a, a? = some a ∧ p c = .ok (a, c') := by
  unfold wholeStatement? at h
  split at h
  · rename_i a c₁ run
    split at h
    · obtain ⟨rfl, rfl⟩ := Prod.mk.inj (Except.ok.inj h)
      exact .inr ⟨a, rfl, run⟩
    · obtain ⟨rfl, rfl⟩ := Prod.mk.inj (Except.ok.inj h)
      exact .inl ⟨rfl, rfl⟩
  · obtain ⟨rfl, rfl⟩ := Prod.mk.inj (Except.ok.inj h)
    exact .inl ⟨rfl, rfl⟩
  · cases h

end Parser

end PatternAction
