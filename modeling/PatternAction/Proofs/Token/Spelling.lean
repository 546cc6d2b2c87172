import PatternAction.Token.Lexer

/-!
How tokens are written.  `Spelled` says which texts spell a token of some kind, and `Maximal` that
no longer lexeme could have been taken in front of a given rest.  The main statements are that
every lexeme read is the spelling of its kind and maximal, and that a maximal spelling is read as
exactly that lexeme.
-/

set_option autoImplicit false
set_option relaxedAutoImplicit false

namespace PatternAction

open Text

namespace Keyword

private theorem ofSpelling?_spelling (k : Keyword) : ofSpelling? k.spelling = some k := by
  cases k <;> decide

private theorem spelling_of_ofSpelling? {text : String} {k : Keyword}
    (h : ofSpelling? text = some k) :
    k.spelling = text := by
  simpa using List.find?_some h

theorem spelling_letters (k : Keyword) :
    ∃ c cs, k.spelling.toList = c :: cs ∧ isWordStart c ∧ ∀ d ∈ cs, isWordChar d := by
  cases k <;> exact ⟨_, _, rfl, by decide, List.all_eq_true.mp (by decide)⟩

end Keyword

namespace Symbol

private theorem ofSpelling?_eq_some_iff {cs : List Char} {s : Symbol} :
    ofSpelling? cs = some s ↔ s.spelling = cs := by
  constructor
  · intro h
    simpa using List.find?_some h
  · rintro rfl
    cases s <;> decide

theorem ofSpelling?_eq_none_iff {cs : List Char} :
    ofSpelling? cs = none ↔ ∀ s : Symbol, s.spelling ≠ cs := by
  simp [Option.eq_none_iff_forall_ne_some, ofSpelling?_eq_some_iff]

theorem length_spelling_le (s : Symbol) : s.spelling.length ≤ 2 := by
  cases s <;> decide

theorem head_spelling (s : Symbol) :
    ∃ c cs, s.spelling = c :: cs ∧ c ≠ '"' ∧ c ≠ '\x60' ∧ c.isDigit = false ∧ c ≠ '.' ∧
      isWordStart c = false ∧ c ≠ ';' ∧ c ≠ '\n' := by
  cases s <;> exact ⟨_, _, rfl, by decide⟩

end Symbol

namespace Token

/-- The text of a string: a quote stands in it only behind a backslash, and a backslash never
without the character that it escapes. -/
inductive StringText : List Char → Prop
  | nil : StringText []
  | escaped (c : Char) {cs : List Char} : StringText cs → StringText ('\\' :: c :: cs)
  | plain {c : Char} {cs : List Char} :
      c ≠ '"' → c ≠ '\\' → StringText cs → StringText (c :: cs)

/-- Digits with at most one point among them, and at least one digit. -/
structure NumberText (cs : List Char) : Prop where
  chars : ∀ c ∈ cs, c.isDigit ∨ c = '.'
  points : cs.count '.' ≤ 1
  digit : ∃ c ∈ cs, c.isDigit

/-- A word of the script's own: it is no reserved word, or it is glued to a number in front. -/
inductive WordText : List Char → Prop
  | plain {c : Char} {cs : List Char} : isWordStart c → (∀ d ∈ cs, isWordChar d) →
      (∀ k : Keyword, k.spelling.toList ≠ c :: cs) → WordText (c :: cs)
  | glued {number : List Char} {c : Char} {cs : List Char} : NumberText number → isLetter c →
      (∀ d ∈ cs, isWordChar d) → WordText (number ++ c :: cs)

namespace Kind

/-- The texts that spell a token of a kind; the end has none. -/
def Spelled : Kind → List Char → Prop
  | .word text, cs => cs = text.toList ∧ WordText cs
  | .number text, cs => cs = text.toList ∧ NumberText cs
  | .string text, cs => cs = '"' :: text.toList ++ ['"'] ∧ StringText text.toList
  | .pattern text, cs => cs = '\x60' :: text.toList ++ ['\x60'] ∧ '\x60' ∉ text.toList
  | .keyword k, cs => cs = k.spelling.toList
  | .symbol s, cs => cs = s.spelling
  | .separator, cs => cs = [';'] ∨ cs = ['\n']
  | .eof, _ => False

/-- A spelling that could not have been longer: a word does not go on with a word character, a
number neither with a digit or letter nor with a first point, and no symbol is one character
longer. -/
def Maximal : Kind → List Char → List Char → Prop
  | .word _, _, rest | .keyword _, _, rest => ∀ d, rest.head? = some d → ¬ isWordChar d
  | .number _, cs, rest =>
      ∀ d, rest.head? = some d → ¬ d.isDigit ∧ ¬ isLetter d ∧ (d = '.' → '.' ∈ cs)
  | .symbol _, cs, rest | .separator, cs, rest =>
      ∀ d (s : Symbol), rest.head? = some d → s.spelling ≠ cs ++ [d]
  | .string _, _, _ | .pattern _, _, _ | .eof, _, _ => True

end Kind

/-! ## Characters -/

private theorem isLetter_eq_false_of_isDigit {c : Char} (h : c.isDigit) : isLetter c = false := by
  have range : 48 ≤ c.toNat ∧ c.toNat ≤ 57 := Char.isDigit_iff_toNat.mp h
  have ascii : c.toNat < 128 := by omega
  have upper : ¬ 65 ≤ c.toNat := by omega
  have lower : ¬ 97 ≤ c.toNat := by omega
  simp only [isLetter, ascii, if_true]
  change (decide (65 ≤ c.toNat ∧ c.toNat ≤ 90) || (decide (97 ≤ c.toNat) && decide _)) = false
  simp [upper, lower]

private theorem ne_of_isWordStart {c : Char} (h : isWordStart c) :
    c ≠ '"' ∧ c ≠ '\x60' ∧ c ≠ '.' ∧ c.isDigit = false := by
  refine ⟨?_, ?_, ?_, ?_⟩
  · rintro rfl
    revert h
    decide
  · rintro rfl
    revert h
    decide
  · rintro rfl
    revert h
    decide
  · rw [Bool.eq_false_iff]
    intro digit
    have noLetter := isLetter_eq_false_of_isDigit digit
    simp only [isWordStart, noLetter, Bool.false_or, beq_iff_eq] at h
    subst h
    revert digit
    decide

theorem NumberText.head {cs : List Char} (h : NumberText cs) :
    ∃ c tail, cs = c :: tail ∧ (c.isDigit || (c == '.' && tail.head?.any Char.isDigit)) := by
  cases cs with
  | nil => simpa using h.digit
  | cons c tail =>
    refine ⟨c, tail, rfl, ?_⟩
    rcases h.chars c List.mem_cons_self with digit | rfl
    · simp [digit]
    · obtain ⟨d, mem, digit⟩ := h.digit
      have points := h.points
      cases tail with
      | nil =>
        obtain rfl := List.mem_singleton.mp mem
        simp at digit
      | cons d tail =>
        have next := h.chars d (by simp)
        rcases next with next | rfl
        · simp [next]
        · simp at points

/-! ## Bodies -/

private theorem stringBody_text {cs body rest : List Char} (h : stringBody cs = some (body, rest)) :
    StringText body := by
  fun_induction stringBody cs generalizing body rest with
  | case1 => simp at h
  | case2 cs =>
    obtain ⟨rfl, -⟩ : [] = body ∧ cs = rest := by simpa using h
    exact .nil
  | case3 c cs ih =>
    obtain ⟨⟨inner, more⟩, hp, he⟩ := Option.map_eq_some_iff.mp h
    obtain ⟨rfl, -⟩ := Prod.mk.inj he
    exact .escaped c (ih hp)
  | case4 c cs quote escape ih =>
    obtain ⟨⟨inner, more⟩, hp, he⟩ := Option.map_eq_some_iff.mp h
    obtain ⟨rfl, -⟩ := Prod.mk.inj he
    refine .plain quote ?_ (ih hp)
    -- A backslash gets here only as the last character, where the string is not closed.
    rintro rfl
    cases cs with
    | nil => simp [stringBody] at hp
    | cons d ds => exact escape d ds rfl rfl

theorem stringBody_append_quote {body : List Char} (h : StringText body) (rest : List Char) :
    stringBody (body ++ '"' :: rest) = some (body, rest) := by
  induction h with
  | nil => simp [stringBody]
  | escaped c _ ih => simp [stringBody, ih]
  | plain quote escape _ ih =>
    rw [List.cons_append, stringBody]
    · simp [ih]
    · exact quote
    · intro d ds backslash
      exact absurd backslash escape

private theorem patternBody_free {cs body rest : List Char}
    (h : patternBody cs = some (body, rest)) :
    '\x60' ∉ body := by
  induction cs generalizing body rest with
  | nil => simp [patternBody] at h
  | cons c cs ih =>
    simp only [patternBody] at h
    split at h
    · obtain ⟨rfl, -⟩ : [] = body ∧ cs = rest := by simpa using h
      simp
    · rename_i other
      obtain ⟨⟨inner, more⟩, hp, he⟩ := Option.map_eq_some_iff.mp h
      obtain ⟨rfl, -⟩ := Prod.mk.inj he
      simpa [Ne.symm other] using ih hp

theorem patternBody_append_mark {body : List Char} (h : '\x60' ∉ body) (rest : List Char) :
    patternBody (body ++ '\x60' :: rest) = some (body, rest) := by
  induction body with
  | nil => simp [patternBody]
  | cons c body ih =>
    simp only [List.mem_cons, not_or] at h
    simp [patternBody, Ne.symm h.1, ih h.2]

private theorem numberBody_chars (seen : Bool) (cs : List Char) :
    ∀ c ∈ (numberBody seen cs).1, c.isDigit ∨ c = '.' := by
  induction cs generalizing seen with
  | nil => simp [numberBody]
  | cons c cs ih =>
    simp only [numberBody]
    split
    · rename_i taken
      intro d mem
      rcases List.mem_cons.mp mem with rfl | mem
      · simp only [Bool.or_eq_true, Bool.and_eq_true, beq_iff_eq] at taken
        exact taken.imp_right (·.1)
      · exact ih _ d mem
    · simp

private theorem numberBody_points (seen : Bool) (cs : List Char) :
    (numberBody seen cs).1.count '.' ≤ if seen then 0 else 1 := by
  induction cs generalizing seen with
  | nil => simp [numberBody]
  | cons c cs ih =>
    simp only [numberBody]
    split
    · rename_i taken
      by_cases point : c = '.'
      · subst point
        have unseen : seen = false := by simpa using taken
        have rest := ih (seen || '.' == '.')
        simp [unseen] at rest ⊢
        exact rest
      · have rest := ih (seen || c == '.')
        simpa [List.count_cons, point] using rest
    · simp

private theorem numberBody_stops (seen : Bool) (cs : List Char) (d : Char)
    (h : (numberBody seen cs).2.head? = some d) :
    ¬ d.isDigit ∧ (d = '.' → seen ∨ '.' ∈ (numberBody seen cs).1) := by
  induction cs generalizing seen with
  | nil => simp [numberBody] at h
  | cons c cs ih =>
    simp only [numberBody] at h ⊢
    split
    · rename_i taken
      simp only [taken, if_true] at h
      obtain ⟨digit, point⟩ := ih _ h
      refine ⟨digit, fun hd => ?_⟩
      rcases point hd with seen' | mem
      · simp only [Bool.or_eq_true, beq_iff_eq] at seen'
        exact seen'.imp_right fun hc => by simp [hc]
      · exact .inr (List.mem_cons_of_mem c mem)
    · rename_i left
      simp only [left, if_false, Bool.false_eq_true, List.head?_cons, Option.some.injEq] at h
      subst h
      simp only [Bool.or_eq_true, Bool.and_eq_true, Bool.not_eq_true', not_or] at left
      refine ⟨left.1, fun point => .inl ?_⟩
      simpa [point] using left.2

private theorem numberBody_append_rest {body rest : List Char} (seen : Bool)
    (chars : ∀ c ∈ body, c.isDigit ∨ c = '.')
    (points : body.count '.' ≤ if seen then 0 else 1)
    (stops : ∀ d, rest.head? = some d → ¬ d.isDigit ∧ (d = '.' → seen ∨ '.' ∈ body)) :
    numberBody seen (body ++ rest) = (body, rest) := by
  induction body generalizing seen with
  | nil =>
    cases rest with
    | nil => rfl
    | cons d rest =>
      obtain ⟨digit, point⟩ := stops d rfl
      have left : ¬ (d.isDigit || (d == '.' && !seen)) := by
        simpa [digit] using point
      simp [numberBody, left]
  | cons c body ih =>
    have taken : c.isDigit || (c == '.' && !seen) := by
      rcases chars c List.mem_cons_self with digit | rfl
      · simp [digit]
      · cases seen with
        | false => simp
        | true => simp at points
    have rest' : numberBody (seen || c == '.') (body ++ rest) = (body, rest) := by
      apply ih
      · exact fun d mem => chars d (List.mem_cons_of_mem c mem)
      · by_cases point : c = '.'
        · subst point
          cases seen with
          | false => simpa using points
          | true => simp at points
        · simpa [List.count_cons, point] using points
      · intro d hd
        refine ⟨(stops d hd).1, fun point => ?_⟩
        rcases (stops d hd).2 point with hs | mem
        · simp [hs]
        · rcases List.mem_cons.mp mem with hc | mem
          · simp [← hc]
          · exact .inr mem
    simp [numberBody, taken, rest']

private theorem wordBody_chars (cs : List Char) : ∀ c ∈ (wordBody cs).1, isWordChar c :=
  List.all_eq_true.mp List.all_takeWhile

private theorem wordBody_stops (cs : List Char) (d : Char) (h : (wordBody cs).2.head? = some d) :
    ¬ isWordChar d := by
  have stop := List.head?_dropWhile_not isWordChar cs
  simp only [wordBody] at h
  simpa [h] using stop

private theorem wordBody_append_rest {body rest : List Char} (chars : ∀ c ∈ body, isWordChar c)
    (stops : ∀ d, rest.head? = some d → ¬ isWordChar d) :
    wordBody (body ++ rest) = (body, rest) := by
  have none : rest.takeWhile isWordChar = [] := by
    cases rest with
    | nil => rfl
    | cons d rest => simpa [List.takeWhile_cons] using stops d rfl
  have all : rest.dropWhile isWordChar = rest := by
    simpa [none] using List.takeWhile_append_dropWhile (p := isWordChar) (l := rest)
  rw [wordBody, List.takeWhile_append_of_pos chars, List.dropWhile_append_of_pos chars, none, all,
    List.append_nil]

/-! ## Lexemes read are spelled -/

private theorem numberBody_text {c : Char} {cs : List Char}
    (h : c.isDigit || (c == '.' && cs.head?.any Char.isDigit)) :
    NumberText (numberBody false (c :: cs)).1 := by
  refine ⟨numberBody_chars _ _, by simpa using numberBody_points false (c :: cs), ?_⟩
  simp only [Bool.or_eq_true, Bool.and_eq_true, beq_iff_eq] at h
  rcases h with digit | ⟨rfl, next⟩
  · exact ⟨c, by simp [numberBody, digit], digit⟩
  · cases cs with
    | nil => simp at next
    | cons d cs =>
      have digit : d.isDigit := by simpa using next
      exact ⟨d, by simp [numberBody, digit], digit⟩

private theorem numberLexeme_spelled {c : Char} {cs : List Char}
    (h : c.isDigit || (c == '.' && cs.head?.any Char.isDigit)) :
    (numberLexeme (c :: cs)).kind.Spelled (numberLexeme (c :: cs)).spelling ∧
      (numberLexeme (c :: cs)).kind.Maximal (numberLexeme (c :: cs)).spelling
        (numberLexeme (c :: cs)).rest := by
  have text := numberBody_text h
  have stops := numberBody_stops false (c :: cs)
  simp only [numberLexeme]
  generalize numberBody false (c :: cs) = cut at text stops ⊢
  obtain ⟨body, rest⟩ := cut
  split
  · rename_i letter
    cases rest with
    | nil => simp at letter
    | cons d rest =>
      have letter : isLetter d := by simpa using letter
      have taken : isWordChar d := by simp [isWordChar, letter]
      have split : (wordBody (d :: rest)).1 = d :: (wordBody rest).1 := by simp [wordBody, taken]
      refine ⟨⟨by simp, ?_⟩, wordBody_stops (d :: rest)⟩
      rw [split]
      exact .glued text letter (wordBody_chars rest)
  · rename_i letter
    refine ⟨⟨by simp, text⟩, fun d hd => ?_⟩
    obtain ⟨digit, point⟩ := stops d hd
    refine ⟨digit, ?_, by simpa using point⟩
    simpa [hd] using letter

private theorem wordKind_spelled {c : Char} {cs : List Char} (start : isWordStart c)
    (chars : ∀ d ∈ cs, isWordChar d) : (wordKind (c :: cs)).Spelled (c :: cs) := by
  simp only [wordKind]
  split
  · rename_i k hk
    have spelling := Keyword.spelling_of_ofSpelling? hk
    simp [Kind.Spelled, spelling]
  · rename_i other
    refine ⟨by simp, .plain start chars ?_⟩
    intro k hk
    have found := k.ofSpelling?_spelling
    rw [← String.ofList_toList (s := k.spelling), hk, other] at found
    cases found

private theorem symbolLexeme?_spelled {c : Char} {cs : List Char} {l : Lexeme}
    (h : symbolLexeme? c cs = some l) :
    l.kind.Spelled l.spelling ∧ l.kind.Maximal l.spelling l.rest := by
  have single : (∀ d, cs.head? = some d → Symbol.ofSpelling? [c, d] = none) →
      symbolLexeme?.single c cs = some l →
      l.kind.Spelled l.spelling ∧ l.kind.Maximal l.spelling l.rest := by
    intro alone h
    have maximal : ∀ d (s : Symbol), cs.head? = some d → s.spelling ≠ [c] ++ [d] :=
      fun d s hd => Symbol.ofSpelling?_eq_none_iff.mp (alone d hd) s
    simp only [symbolLexeme?.single] at h
    split at h
    · rename_i hc
      obtain rfl := Option.some.inj h
      exact ⟨by simpa [Kind.Spelled] using hc, maximal⟩
    · obtain ⟨s, hs, rfl⟩ := Option.map_eq_some_iff.mp h
      exact ⟨(Symbol.ofSpelling?_eq_some_iff.mp hs).symm, maximal⟩
  unfold symbolLexeme? at h
  split at h
  · rename_i d ds
    split at h
    · rename_i s hs
      obtain rfl := Option.some.inj h
      refine ⟨(Symbol.ofSpelling?_eq_some_iff.mp hs).symm, fun e s' _ three => ?_⟩
      have two := s'.length_spelling_le
      simp [three] at two
    · rename_i none
      refine single (fun e he => ?_) h
      obtain rfl : d = e := by simpa using he
      exact none
  · exact single (by simp) h

theorem lexeme_spelled {c : Char} {cs : List Char} {l : Lexeme} (h : lexeme c cs = .ok l) :
    l.kind.Spelled l.spelling ∧ l.kind.Maximal l.spelling l.rest := by
  simp only [lexeme] at h
  split at h
  · split at h
    · rename_i body rest hb
      obtain rfl := Except.ok.inj h
      exact ⟨⟨by simp, by simpa using stringBody_text hb⟩, trivial⟩
    · cases h
  · split at h
    · split at h
      · rename_i body rest hb
        obtain rfl := Except.ok.inj h
        exact ⟨⟨by simp, by simpa using patternBody_free hb⟩, trivial⟩
      · cases h
    · split at h
      · rename_i number
        obtain rfl := Except.ok.inj h
        exact numberLexeme_spelled number
      · split at h
        · rename_i start
          obtain rfl := Except.ok.inj h
          have taken : isWordChar c := isWordChar_of_isWordStart start
          have split : (wordBody (c :: cs)).1 = c :: (wordBody cs).1 := by simp [wordBody, taken]
          have stops := wordBody_stops (c :: cs)
          refine ⟨?_, ?_⟩
          · simp only [split]
            exact wordKind_spelled start (wordBody_chars cs)
          · simp only [wordKind]
            split
            · exact stops
            · exact stops
        · split at h
          · rename_i found
            obtain rfl := Except.ok.inj h
            exact symbolLexeme?_spelled found
          · cases h

/-! ## Spellings are read -/

theorem lexeme_of_isWordStart {c : Char} (h : isWordStart c) (cs : List Char) :
    lexeme c cs = .ok ⟨wordKind (wordBody (c :: cs)).1, (wordBody (c :: cs)).1,
      (wordBody (c :: cs)).2⟩ := by
  obtain ⟨quote, mark, point, digit⟩ := ne_of_isWordStart h
  simp [lexeme, quote, mark, point, digit, h]

private theorem lexeme_of_number {c : Char} {cs : List Char}
    (h : c.isDigit || (c == '.' && cs.head?.any Char.isDigit)) :
    lexeme c cs = .ok (numberLexeme (c :: cs)) := by
  have quote : c ≠ '"' := by
    rintro rfl
    simp at h
  have mark : c ≠ '\x60' := by
    rintro rfl
    simp at h
  simp only [lexeme, quote, mark, if_false, h, if_true]

theorem lexeme_of_symbol {c : Char} {cs : List Char} {l : Lexeme}
    (found : symbolLexeme? c cs = some l) (quote : c ≠ '"') (mark : c ≠ '\x60')
    (digit : c.isDigit = false) (point : c ≠ '.') (start : isWordStart c = false) :
    lexeme c cs = .ok l := by
  have number : ¬ (c.isDigit || (c == '.' && cs.head?.any Char.isDigit)) := by
    simp [digit, point]
  simp only [lexeme, if_neg quote, if_neg mark, if_neg number, start, Bool.false_eq_true, if_false,
    found]

theorem lexeme_of_separator {c : Char} {cs : List Char} {l : Lexeme} (h : c = ';' ∨ c = '\n')
    (found : symbolLexeme? c cs = some l) : lexeme c cs = .ok l := by
  rcases h with rfl | rfl
  · exact lexeme_of_symbol found (by decide) (by decide) (by decide) (by decide) (by decide)
  · exact lexeme_of_symbol found (by decide) (by decide) (by decide) (by decide) (by decide)

private theorem lexeme_of_word {c : Char} {cs rest : List Char} (start : isWordStart c)
    (chars : ∀ d ∈ cs, isWordChar d) (stops : ∀ d, rest.head? = some d → ¬ isWordChar d) :
    lexeme c (cs ++ rest) = .ok ⟨wordKind (c :: cs), c :: cs, rest⟩ := by
  have all : ∀ d ∈ c :: cs, isWordChar d := by
    intro d mem
    rcases List.mem_cons.mp mem with rfl | mem
    · exact isWordChar_of_isWordStart start
    · exact chars d mem
  rw [lexeme_of_isWordStart start, ← List.cons_append, wordBody_append_rest all stops]

private theorem head_any_append {cs : List Char} (more : List Char)
    (h : cs.head?.any Char.isDigit) : (cs ++ more).head?.any Char.isDigit := by
  cases cs with
  | nil => simp at h
  | cons c cs => simpa using h

theorem lexeme_of_numberText {number : List Char} (h : NumberText number) (more : List Char) :
    ∃ c cs, number ++ more = c :: cs ∧ lexeme c cs = .ok (numberLexeme (number ++ more)) := by
  obtain ⟨c, tail, rfl, first⟩ := h.head
  refine ⟨c, tail ++ more, rfl, lexeme_of_number ?_⟩
  simp only [Bool.or_eq_true, Bool.and_eq_true] at first ⊢
  exact first.imp_right fun ⟨point, next⟩ => ⟨point, head_any_append more next⟩

private theorem numberBody_of_numberText {number rest : List Char} (h : NumberText number)
    (stops : ∀ d, rest.head? = some d → ¬ d.isDigit ∧ (d = '.' → '.' ∈ number)) :
    numberBody false (number ++ rest) = (number, rest) :=
  numberBody_append_rest false h.chars (by simpa using h.points)
    fun d hd => ⟨(stops d hd).1, fun point => .inr ((stops d hd).2 point)⟩

private theorem numberLexeme_of_glued {number cs rest : List Char} {c : Char}
    (h : NumberText number) (letter : isLetter c) (chars : ∀ d ∈ cs, isWordChar d)
    (stops : ∀ d, rest.head? = some d → ¬ isWordChar d) :
    numberLexeme (number ++ (c :: cs ++ rest)) =
      ⟨.word (String.ofList (number ++ c :: cs)), number ++ c :: cs, rest⟩ := by
  have body : numberBody false (number ++ (c :: cs ++ rest)) = (number, c :: cs ++ rest) := by
    apply numberBody_of_numberText h
    intro d hd
    obtain rfl : c = d := by simpa using hd
    refine ⟨fun digit => ?_, ?_⟩
    · simp [isLetter_eq_false_of_isDigit digit] at letter
    · rintro rfl
      have noLetter : isLetter '.' = false := by decide
      simp [noLetter] at letter
  have all : ∀ d ∈ c :: cs, isWordChar d := by
    intro d mem
    rcases List.mem_cons.mp mem with rfl | mem
    · simp [isWordChar, letter]
    · exact chars d mem
  simp only [numberLexeme, body, wordBody_append_rest all stops]
  simp [letter]

private theorem symbolLexeme?_of_spelling {s : Symbol} {c : Char} {cs rest : List Char}
    (h : s.spelling = c :: cs)
    (maximal : ∀ d (s' : Symbol), rest.head? = some d → s'.spelling ≠ c :: cs ++ [d]) :
    symbolLexeme? c (cs ++ rest) = some ⟨.symbol s, c :: cs, rest⟩ := by
  have found := Symbol.ofSpelling?_eq_some_iff.mpr h
  have short := s.length_spelling_le
  obtain ⟨c', cs', hs, -, -, -, -, -, semicolon, newline⟩ := s.head_spelling
  obtain ⟨rfl, -⟩ := List.cons.inj (hs.symm.trans h)
  rw [h] at short
  cases cs with
  | cons d ds =>
    obtain rfl : ds = [] := by
      cases ds with
      | nil => rfl
      | cons e es => simp at short
    simp [symbolLexeme?, found]
  | nil =>
    have single : symbolLexeme?.single c' rest = some ⟨.symbol s, [c'], rest⟩ := by
      simp [symbolLexeme?.single, semicolon, newline, found]
    cases rest with
    | nil => simpa [symbolLexeme?] using single
    | cons d ds =>
      have none := Symbol.ofSpelling?_eq_none_iff.mpr fun s' => maximal d s' rfl
      simp only [List.cons_append, List.nil_append] at none
      simpa [symbolLexeme?, none] using single

private theorem symbolLexeme?_of_separator {c : Char} (h : c = ';' ∨ c = '\n')
    (rest : List Char) : symbolLexeme? c rest = some ⟨.separator, [c], rest⟩ := by
  have single : symbolLexeme?.single c rest = some ⟨.separator, [c], rest⟩ := by
    simp [symbolLexeme?.single, h]
  cases rest with
  | nil => exact single
  | cons d ds =>
    have none : Symbol.ofSpelling? [c, d] = none := by
      rw [Symbol.ofSpelling?_eq_none_iff]
      intro s hs
      obtain ⟨c', cs', hs', -, -, -, -, -, semicolon, newline⟩ := s.head_spelling
      obtain ⟨rfl, -⟩ := List.cons.inj (hs'.symm.trans hs)
      exact h.elim semicolon newline
    simpa [symbolLexeme?, none] using single

theorem lexeme_of_spelled {kind : Kind} {c : Char} {cs rest : List Char}
    (spelled : kind.Spelled (c :: cs)) (maximal : kind.Maximal (c :: cs) rest) :
    lexeme c (cs ++ rest) = .ok ⟨kind, c :: cs, rest⟩ := by
  cases kind with
  | word text =>
    obtain ⟨written, shape⟩ := spelled
    have back : String.ofList (c :: cs) = text := by simp [written]
    generalize whole : c :: cs = cs' at shape
    cases shape with
    | plain start chars free =>
      obtain ⟨rfl, rfl⟩ := List.cons.inj whole
      have none : Keyword.ofSpelling? (String.ofList (c :: cs)) = none := by
        rw [Option.eq_none_iff_forall_ne_some]
        intro k hk
        exact free k (by simp [Keyword.spelling_of_ofSpelling? hk])
      rw [lexeme_of_word start chars maximal, wordKind, none, back]
    | @glued number d ds hn letter chars =>
      obtain ⟨c', tail, split, read⟩ := lexeme_of_numberText hn (d :: ds ++ rest)
      have same : c :: (cs ++ rest) = c' :: tail := by
        rw [← split, ← List.cons_append, whole]
        simp
      obtain ⟨rfl, rfl⟩ := List.cons.inj same
      rw [read, numberLexeme_of_glued hn letter chars maximal, ← whole, back]
  | number text =>
    obtain ⟨written, hn⟩ := spelled
    have back : String.ofList (c :: cs) = text := by simp [written]
    obtain ⟨c', tail, split, read⟩ := lexeme_of_numberText hn rest
    rw [List.cons_append] at split
    obtain ⟨rfl, rfl⟩ := List.cons.inj split
    have body : numberBody false (c :: cs ++ rest) = (c :: cs, rest) :=
      numberBody_of_numberText hn fun d hd => ⟨(maximal d hd).1, (maximal d hd).2.2⟩
    have letter : ¬ rest.head?.any isLetter := by
      cases rest with
      | nil => simp
      | cons d rest => simpa using (maximal d rfl).2.1
    rw [read]
    simp only [numberLexeme, body, back]
    rw [if_neg letter]
  | string text =>
    obtain ⟨written, shape⟩ := spelled
    obtain ⟨rfl, rfl⟩ := List.cons.inj written
    simp [lexeme, stringBody_append_quote shape]
  | pattern text =>
    obtain ⟨written, free⟩ := spelled
    obtain ⟨rfl, rfl⟩ := List.cons.inj written
    simp [lexeme, patternBody_append_mark free]
  | keyword k =>
    obtain ⟨c', cs', letters, start, chars⟩ := k.spelling_letters
    obtain ⟨rfl, rfl⟩ := List.cons.inj (spelled.trans letters)
    have back : String.ofList (c :: cs) = k.spelling := by simp [← letters]
    rw [lexeme_of_word start chars maximal, wordKind, back, k.ofSpelling?_spelling]
  | symbol s =>
    obtain ⟨c', cs', head, quote, mark, digit, point, start, -⟩ := s.head_spelling
    obtain ⟨rfl, rfl⟩ := List.cons.inj (spelled.trans head)
    have found := symbolLexeme?_of_spelling head fun d s' hd => maximal d s' hd
    exact lexeme_of_symbol found quote mark digit point start
  | separator =>
    have shape : (c = ';' ∨ c = '\n') ∧ cs = [] := by
      simpa [Kind.Spelled, or_and_right] using spelled
    obtain ⟨hc, rfl⟩ := shape
    exact lexeme_of_separator hc (symbolLexeme?_of_separator hc rest)
  | eof => exact spelled.elim

end Token

end PatternAction
