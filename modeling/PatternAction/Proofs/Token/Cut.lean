import PatternAction.Proofs.Token.Spelling

/-!
Nothing of a script is lost.  `Cut` says that a text is a gap, a lexeme, a gap, a lexeme and so on:
each gap is blanks and comments only, each lexeme is the longest spelling of its token, each token
stands where its lexeme does, and the last gap ends the text or stands in front of something that
spells no token.  The main statement is that tokenizing a script cuts it in this way.
-/

set_option autoImplicit false
set_option relaxedAutoImplicit false

namespace PatternAction

open Text

namespace Location

/-- The place behind a text that starts a script: one line more than it has newlines, and one
column more than it has characters behind the last of them. -/
def behind (before : List Char) : Location :=
  ⟨1 + before.count '\n', 1 + (before.reverse.takeWhile (· != '\n')).length⟩

private theorem behind_append_singleton (before : List Char) (c : Char) :
    behind (before ++ [c]) = (behind before).step c := by
  by_cases newline : c = '\n'
  · subst newline
    simp [behind, step]
    omega
  · simp [behind, step, newline, List.count_append]
    omega

private theorem behind_append (before cs : List Char) :
    behind (before ++ cs) = (behind before).after cs := by
  induction cs generalizing before with
  | nil => simp [after]
  | cons c cs ih =>
    have next := ih (before ++ [c])
    rw [behind_append_singleton] at next
    simpa [after] using next

end Location

namespace Token

/-- Blanks other than newlines, and then perhaps a comment, which runs up to a newline or the end
of the text; `rest` is what follows. -/
def IsGap (gap rest : List Char) : Prop :=
  ∃ blanks comment, gap = blanks ++ comment ∧ (∀ c ∈ blanks, isBlank c ∧ c ≠ '\n') ∧
    (comment = [] ∨
      comment.head? = some '#' ∧ '\n' ∉ comment ∧ (rest = [] ∨ rest.head? = some '\n'))

/-- What is wrong with a text in front of which no token is spelled, by its first character. -/
def causeAt (c : Char) : LexCause :=
  if c = '"' then .unterminatedString
  else if c = '\x60' then .unterminatedPattern
  else .unrecognized c

/-- A text in front of which no token is spelled. -/
structure Unreadable (text : List Char) (cause : LexCause) : Prop where
  unspelled : ∀ (kind : Kind) (lexeme rest : List Char), kind.Spelled lexeme → text ≠ lexeme ++ rest
  cause : ∃ c, text.head? = some c ∧ cause = causeAt c

/-- A text cut into gaps and lexemes, with the tokens spelled and the fault at the end if there is
one; `before` is what stands in front of the text in the script. -/
inductive Cut : List Char → List Char → List Token → Option LexFault → Prop
  | done {before gap : List Char} : IsGap gap [] →
      Cut before gap [⟨.eof, .behind (before ++ gap)⟩] none
  | stuck {before gap rest : List Char} {cause : LexCause} : IsGap gap rest →
      Unreadable rest cause →
      Cut before (gap ++ rest) [] (some ⟨cause, .behind (before ++ gap)⟩)
  | token {before gap lexeme rest : List Char} {kind : Kind} {tokens : List Token}
      {fault? : Option LexFault} : IsGap gap (lexeme ++ rest) → kind.Spelled lexeme →
      kind.Maximal lexeme rest → Cut (before ++ gap ++ lexeme) rest tokens fault? →
      Cut before (gap ++ (lexeme ++ rest)) (⟨kind, .behind (before ++ gap)⟩ :: tokens) fault?

/-! ## Gaps -/

private theorem splitGap_comment (cs : List Char) :
    '\n' ∉ (splitGap true cs).1 ∧
      ((splitGap true cs).2 = [] ∨ (splitGap true cs).2.head? = some '\n') := by
  induction cs with
  | nil => simp [splitGap]
  | cons c cs ih =>
    by_cases newline : c = '\n'
    · simp [splitGap, inGap, newline]
    · simpa [splitGap, inGap, newline, Ne.symm newline] using ih

private theorem isGap_splitGap (cs : List Char) :
    IsGap (splitGap false cs).1 (splitGap false cs).2 := by
  induction cs with
  | nil => exact ⟨[], [], rfl, by simp, .inl rfl⟩
  | cons c cs ih =>
    by_cases inside : inGap false c
    · simp only [splitGap, inside, if_true, Bool.false_or]
      have newline : c ≠ '\n' := by
        rintro rfl
        simp [inGap] at inside
      by_cases comment : c = '#'
      · obtain ⟨free, stop⟩ := splitGap_comment cs
        refine ⟨[], c :: (splitGap true cs).1, by simp [comment], by simp, .inr ⟨?_, ?_, ?_⟩⟩
        · simp [comment]
        · simpa [Ne.symm newline] using free
        · simpa [comment] using stop
      · have blank : isBlank c := by simpa [inGap, newline, comment] using inside
        have hash : (c == '#') = false := by simpa using comment
        obtain ⟨blanks, tail, gap, all, stop⟩ := ih
        rw [hash]
        refine ⟨c :: blanks, tail, by simp [gap], ?_, stop⟩
        intro d mem
        rcases List.mem_cons.mp mem with rfl | mem
        · exact ⟨blank, newline⟩
        · exact all d mem
    · simp only [splitGap, inside, Bool.false_eq_true, if_false]
      exact ⟨[], [], rfl, by simp, .inl rfl⟩

/-! ## Faults -/

private theorem causeAt_of_lexeme {c : Char} {cs : List Char} {cause : LexCause}
    (h : lexeme c cs = .error cause) : cause = causeAt c := by
  simp only [lexeme] at h
  simp only [causeAt]
  split at h
  · rename_i quote
    split at h
    · cases h
    · rw [if_pos quote]
      exact (Except.error.inj h).symm
  · rename_i quote
    rw [if_neg quote]
    split at h
    · rename_i mark
      split at h
      · cases h
      · rw [if_pos mark]
        exact (Except.error.inj h).symm
    · rename_i mark
      rw [if_neg mark]
      split at h
      · cases h
      · split at h
        · cases h
        · split at h
          · cases h
          · exact (Except.error.inj h).symm

private theorem unspelled_of_symbolLexeme? {c : Char} {cs : List Char}
    (h : symbolLexeme? c cs = none) :
    (c ≠ ';' ∧ c ≠ '\n') ∧ ∀ (s : Symbol) (rest : List Char), c :: cs ≠ s.spelling ++ rest := by
  have single : symbolLexeme?.single c cs = none := by
    unfold symbolLexeme? at h
    split at h
    · split at h
      · cases h
      · exact h
    · exact h
  have pair : ∀ d ds, cs = d :: ds → Symbol.ofSpelling? [c, d] = none := by
    rintro d ds rfl
    unfold symbolLexeme? at h
    simp only at h
    split at h
    · cases h
    · assumption
  simp only [symbolLexeme?.single] at single
  split at single
  · cases single
  · rename_i separator
    have one := Option.map_eq_none_iff.mp single
    refine ⟨not_or.mp separator, fun s rest whole => ?_⟩
    have short := s.length_spelling_le
    obtain ⟨c', tail, head, -⟩ := s.head_spelling
    rw [head] at whole short
    obtain ⟨rfl, behind⟩ := List.cons.inj whole
    cases tail with
    | nil => exact Symbol.ofSpelling?_eq_none_iff.mp one s head
    | cons d ds =>
      obtain rfl : ds = [] := by
        cases ds with
        | nil => rfl
        | cons e es => simp at short
      exact Symbol.ofSpelling?_eq_none_iff.mp (pair d rest behind) s head

private theorem unspelled_of_wordStart {c : Char} {cs : List Char} {cause : LexCause}
    (h : lexeme c cs = .error cause) : ¬ isWordStart c := by
  intro start
  rw [lexeme_of_isWordStart start] at h
  cases h

private theorem unspelled_of_number {c : Char} {cs number more : List Char} {cause : LexCause}
    (h : lexeme c cs = .error cause) (hn : NumberText number) : c :: cs ≠ number ++ more := by
  intro whole
  obtain ⟨d, ds, split, read⟩ := lexeme_of_numberText hn more
  obtain ⟨rfl, rfl⟩ := List.cons.inj (whole.trans split)
  rw [read] at h
  cases h

private theorem unreadable_of_lexeme {c : Char} {cs : List Char} {cause : LexCause}
    (h : lexeme c cs = .error cause) : Unreadable (c :: cs) cause := by
  refine ⟨fun kind spelling rest spelled whole => ?_, c, rfl, causeAt_of_lexeme h⟩
  cases kind with
  | word text =>
    cases spelled.2 with
    | plain start chars free =>
      obtain ⟨rfl, -⟩ := List.cons.inj whole
      exact unspelled_of_wordStart h start
    | glued hn letter chars =>
      rw [List.append_assoc] at whole
      exact unspelled_of_number h hn whole
  | number text => exact unspelled_of_number h spelled.2 whole
  | string text =>
    obtain ⟨rfl, shape⟩ := spelled
    obtain ⟨rfl, rfl⟩ := List.cons.inj whole
    simp [lexeme, stringBody_append_quote shape] at h
  | pattern text =>
    obtain ⟨rfl, free⟩ := spelled
    obtain ⟨rfl, rfl⟩ := List.cons.inj whole
    simp [lexeme, patternBody_append_mark free] at h
  | keyword k =>
    obtain ⟨d, ds, letters, start, -⟩ := k.spelling_letters
    rw [spelled, letters] at whole
    obtain ⟨rfl, -⟩ := List.cons.inj whole
    exact unspelled_of_wordStart h start
  | symbol s =>
    obtain rfl := spelled
    obtain ⟨d, ds, head, quote, mark, digit, point, start, -⟩ := s.head_spelling
    have first := whole
    rw [head] at first
    obtain ⟨rfl, -⟩ := List.cons.inj first
    cases found : symbolLexeme? c cs with
    | some l =>
      rw [lexeme_of_symbol found quote mark digit point start] at h
      cases h
    | none => exact (unspelled_of_symbolLexeme? found).2 s rest whole
  | separator =>
    have first : c = ';' ∨ c = '\n' := by
      rcases spelled with rfl | rfl
      · exact .inl (List.cons.inj whole).1
      · exact .inr (List.cons.inj whole).1
    cases found : symbolLexeme? c cs with
    | some l =>
      rw [lexeme_of_separator first found] at h
      cases h
    | none =>
      have neither := (unspelled_of_symbolLexeme? found).1
      exact first.elim neither.1 neither.2
  | eof => exact spelled

/-! ## The whole text -/

/-- Reading on from `before` cuts what is left: one gap and one lexeme at a time. -/
theorem scanFrom_cut (before cs : List Char) :
    Cut before cs (scanFrom (.behind before) cs).tokens (scanFrom (.behind before) cs).fault? := by
  generalize start : Location.behind before = l
  fun_induction scanFrom l cs generalizing before with
  | case1 l cs place nothing =>
    have gap := isGap_splitGap cs
    have whole := splitGap_append false cs
    have here : place = .behind (before ++ (splitGap false cs).1) := by
      rw [Location.behind_append, start]
    rw [nothing, List.append_nil] at whole
    rw [nothing] at gap
    rw [here, whole]
    exact .done (whole ▸ gap)
  | case2 l cs place c tail split cause failed =>
    have gap := isGap_splitGap cs
    have whole := splitGap_append false cs
    have here : place = .behind (before ++ (splitGap false cs).1) := by
      rw [Location.behind_append, start]
    have unreadable : Unreadable (splitGap false cs).2 cause := split ▸ unreadable_of_lexeme failed
    have cut : Cut before _ _ _ := .stuck gap unreadable
    rwa [whole, ← here] at cut
  | case3 l cs place c tail split x read shorter more ih =>
    have gap := isGap_splitGap cs
    have whole := splitGap_append false cs
    have here : place = .behind (before ++ (splitGap false cs).1) := by
      rw [Location.behind_append, start]
    have next : Location.behind (before ++ (splitGap false cs).1 ++ x.spelling) =
        place.after x.spelling := by
      rw [Location.behind_append, ← here]
    obtain ⟨spelled, maximal⟩ := lexeme_spelled read
    have cutHere : x.spelling ++ x.rest = (splitGap false cs).2 := by
      rw [lexeme_append read, split]
    have cut : Cut before _ _ _ := .token (cutHere ▸ gap) spelled maximal (ih _ next)
    rwa [cutHere, whole, ← here] at cut

/-- The end is marked once, by the last token, and only if there was no fault. -/
theorem Cut.eof {before cs : List Char} {tokens : List Token} {fault? : Option LexFault}
    (h : Cut before cs tokens fault?) :
    ∃ front, (∀ t ∈ front, t.kind ≠ .eof) ∧
      tokens = front ++ if fault?.isNone then [⟨.eof, .behind (before ++ cs)⟩] else [] := by
  induction h with
  | done gap => exact ⟨[], by simp, by simp⟩
  | stuck gap unreadable => exact ⟨[], by simp, by simp⟩
  | @token before gap lexeme rest kind tokens fault? isGap spelled maximal _ ih =>
    obtain ⟨front, none, split⟩ := ih
    refine ⟨⟨kind, .behind (before ++ gap)⟩ :: front, ?_, by simp [split]⟩
    intro t mem
    rcases List.mem_cons.mp mem with rfl | mem
    · rintro rfl
      exact spelled
    · exact none t mem

private theorem Cut.spelled {before cs : List Char} {tokens : List Token} {fault? : Option LexFault}
    (h : Cut before cs tokens fault?) {t : Token} (mem : t ∈ tokens) :
    t.kind = .eof ∨ ∃ lexeme, t.kind.Spelled lexeme := by
  induction h with
  | done gap => exact .inl (List.mem_singleton.mp mem ▸ rfl)
  | stuck gap unreadable => cases mem
  | token gap spelled maximal _ ih =>
    rcases List.mem_cons.mp mem with rfl | behind
    · exact .inr ⟨_, spelled⟩
    · exact ih behind

theorem cut_of_tokenize {source : String} {tokens : List Token}
    (lexed : tokenize source = .ok tokens) : Cut [] source.toList tokens none := by
  have cut : Cut [] source.toList (scan source).tokens (scan source).fault? :=
    scanFrom_cut [] source.toList
  unfold tokenize at lexed
  split at lexed
  · cases lexed
  · rename_i success
    obtain rfl := Except.ok.inj lexed
    rwa [success] at cut

theorem spelled_of_tokenize {source : String} {tokens : List Token}
    (lexed : tokenize source = .ok tokens) {t : Token} (mem : t ∈ tokens) :
    t.kind = .eof ∨ ∃ lexeme, t.kind.Spelled lexeme :=
  (cut_of_tokenize lexed).spelled mem

/-- Tokenizing cuts the whole script.  If it succeeds, the only `eof` is the last token and stands
at the end; if it fails, the tokens read so far cut the script up to the fault. -/
theorem tokenize_lossless (source : String) :
    match tokenize source with
    | .ok tokens =>
      Cut [] source.toList tokens none ∧ ∃ front, (∀ t ∈ front, t.kind ≠ .eof) ∧
        tokens = front ++ [⟨.eof, .behind source.toList⟩]
    | .error fault =>
      Cut [] source.toList (scan source).tokens (some fault) ∧
        ∀ t ∈ (scan source).tokens, t.kind ≠ .eof := by
  have cut : Cut [] source.toList (scan source).tokens (scan source).fault? :=
    scanFrom_cut [] source.toList
  obtain ⟨front, none, split⟩ := cut.eof
  cases outcome : (scan source).fault? with
  | none =>
    simp only [tokenize, outcome]
    rw [outcome] at cut split
    exact ⟨cut, front, none, split⟩
  | some fault =>
    simp only [tokenize, outcome]
    rw [outcome] at cut split
    refine ⟨cut, fun t mem => none t ?_⟩
    simpa [split] using mem

end Token

end PatternAction
