import PatternAction.Proofs.Token.Spelling

/-!
Texts made of spellings, one directly behind the other.  `Legible` says that no token in such a text
runs into the next; the main statement is that the tokens are then read back, and nothing else.
-/

set_option autoImplicit false
set_option relaxedAutoImplicit false

namespace PatternAction

namespace Text

def blanks : List Nat :=
  [9, 10, 11, 12, 13, 0x20, 0x85, 0xa0, 0x1680, 0x2000, 0x2001, 0x2002, 0x2003, 0x2004, 0x2005,
    0x2006, 0x2007, 0x2008, 0x2009, 0x200a, 0x2028, 0x2029, 0x202f, 0x205f, 0x3000]

theorem toNat_mem_blanks {c : Char} (h : isBlank c) : c.toNat ∈ blanks := by
  simp only [isBlank, Bool.or_eq_true, Bool.and_eq_true, decide_eq_true_eq, beq_iff_eq] at h
  simp only [blanks, List.mem_cons, List.not_mem_nil, or_false]
  omega

private theorem isWordChar_eq_false_of_isBlank {c : Char} (h : isBlank c) :
    isWordChar c = false := by
  have all : ∀ n ∈ blanks, isWordChar (Char.ofNat n) = false := by decide +kernel
  simpa using all c.toNat (toNat_mem_blanks h)

theorem isDigit_eq_false_of_isBlank {c : Char} (h : isBlank c) : c.isDigit = false := by
  have all : ∀ n ∈ blanks, (Char.ofNat n).isDigit = false := by decide
  simpa using all c.toNat (toNat_mem_blanks h)

end Text

open Text

namespace Token

/-! ## Gaps -/

private theorem inGap_eq_false_of_not_isBlank {c : Char} (hash : c ≠ '#') (h : ¬ isBlank c) :
    inGap false c = false := by
  simp [inGap, hash, h]

private theorem inGap_eq_false_of_isWordChar {c : Char} (h : isWordChar c) :
    inGap false c = false := by
  apply inGap_eq_false_of_not_isBlank
  · rintro rfl
    revert h
    decide
  · intro blank
    rw [isWordChar_eq_false_of_isBlank blank] at h
    cases h

private theorem NumberText.inGap_head {number more : List Char} (h : NumberText number) {c : Char}
    (head : (number ++ more).head? = some c) : inGap false c = false := by
  obtain ⟨d, tail, rfl, -⟩ := h.head
  obtain rfl : d = c := by simpa using head
  rcases h.chars d List.mem_cons_self with digit | rfl
  · apply inGap_eq_false_of_not_isBlank
    · rintro rfl
      revert digit
      decide
    · intro blank
      rw [isDigit_eq_false_of_isBlank blank] at digit
      cases digit
  · decide

private theorem Kind.Spelled.ne_nil {kind : Kind} {cs : List Char} (h : kind.Spelled cs) :
    cs ≠ [] := by
  rintro rfl
  cases kind with
  | word text =>
    generalize nothing : ([] : List Char) = cs at h
    cases h.2 with
    | plain _ _ _ => cases nothing
    | glued _ _ _ => simp at nothing
  | number text => simpa using h.2.digit
  | string text => cases h.1
  | pattern text => cases h.1
  | keyword k =>
    obtain ⟨c, cs, letters, -⟩ := k.spelling_letters
    cases h.trans letters
  | symbol s =>
    obtain ⟨c, cs, head, -⟩ := s.head_spelling
    cases h.trans head
  | separator =>
    rcases h with h | h
    · cases h
    · cases h
  | eof => exact h

private theorem Kind.Spelled.inGap_head {kind : Kind} {c : Char} {cs : List Char}
    (h : kind.Spelled (c :: cs)) : inGap false c = false := by
  cases kind with
  | word text =>
    generalize whole : c :: cs = cs' at h
    cases h.2 with
    | plain start _ _ =>
      obtain ⟨rfl, -⟩ := List.cons.inj whole
      exact inGap_eq_false_of_isWordChar (isWordChar_of_isWordStart start)
    | glued hn _ _ => exact hn.inGap_head (by rw [← whole, List.head?_cons])
  | number text =>
    have head : (c :: cs ++ []).head? = some c := rfl
    exact h.2.inGap_head head
  | string text =>
    obtain ⟨rfl, -⟩ := List.cons.inj h.1
    decide
  | pattern text =>
    obtain ⟨rfl, -⟩ := List.cons.inj h.1
    decide
  | keyword k =>
    obtain ⟨d, ds, letters, start, -⟩ := k.spelling_letters
    obtain ⟨rfl, -⟩ := List.cons.inj (h.trans letters)
    exact inGap_eq_false_of_isWordChar (isWordChar_of_isWordStart start)
  | symbol s =>
    have all : ∀ s : Symbol, s.spelling.head?.all (inGap false · == false) := by
      intro s
      cases s <;> decide
    have first := all s
    rw [← show c :: cs = s.spelling from h] at first
    simpa using first
  | separator =>
    rcases h with h | h
    · obtain ⟨rfl, -⟩ := List.cons.inj h
      decide
    · obtain ⟨rfl, -⟩ := List.cons.inj h
      decide
  | eof => exact h.elim

/-! ## Spelling token by token -/

namespace Kind

def spelling : Kind → List Char
  | .word text | .number text => text.toList
  | .string text => '"' :: text.toList ++ ['"']
  | .pattern text => '\x60' :: text.toList ++ ['\x60']
  | .keyword k => k.spelling.toList
  | .symbol s => s.spelling
  | .separator => ['\n']
  | .eof => []

/-- The text of tokens written one directly behind the other. -/
def spellings (ks : List Kind) : List Char :=
  ks.flatMap spelling

/-- Each token is a possible one, and none of them runs into the text behind it, which ends with
`rest`. -/
def Legible : List Kind → List Char → Prop
  | [], _ => True
  | k :: ks, rest =>
      k.Spelled k.spelling ∧ k.Maximal k.spelling (spellings ks ++ rest) ∧ Legible ks rest

private theorem spellings_append (ks js : List Kind) :
    spellings (ks ++ js) = spellings ks ++ spellings js :=
  List.flatMap_append

theorem legible_append {ks js : List Kind} {rest : List Char} :
    Legible (ks ++ js) rest ↔ Legible ks (spellings js ++ rest) ∧ Legible js rest := by
  induction ks with
  | nil => simp [Legible]
  | cons k ks ih => simp [Legible, ih, spellings_append, and_assoc]

end Kind

open Kind

private theorem splitGap_of_spelled {kind : Kind} {c : Char} {cs : List Char}
    (h : kind.Spelled (c :: cs)) (rest : List Char) :
    splitGap false (c :: (cs ++ rest)) = ([], c :: (cs ++ rest)) := by
  simp [splitGap, h.inGap_head]

theorem scanFrom_spelled {kind : Kind} {cs rest : List Char} (spelled : kind.Spelled cs)
    (maximal : kind.Maximal cs rest) (l : Location) :
    scanFrom l (cs ++ rest) =
      ⟨⟨kind, l⟩ :: (scanFrom (l.after cs) rest).tokens, (scanFrom (l.after cs) rest).fault?⟩ := by
  cases cs with
  | nil => exact absurd rfl spelled.ne_nil
  | cons c cs =>
    have gap := splitGap_of_spelled spelled rest
    have read := lexeme_of_spelled spelled maximal
    rw [List.cons_append, scanFrom.eq_def]
    split
    · rename_i nothing
      simp [gap] at nothing
    · rename_i d tail split
      obtain ⟨rfl, rfl⟩ : c = d ∧ cs ++ rest = tail := by simpa [gap] using split
      simp only [gap]
      split
      · rename_i failed
        rw [read] at failed
        cases failed
      · rename_i x success
        obtain rfl := Except.ok.inj (read.symm.trans success)
        rfl

private theorem scanFrom_spellings {ks : List Kind} (h : Legible ks []) (l : Location) :
    ∃ ts : List Token, ts.map (·.kind) = ks ∧ ∃ l',
      scanFrom l (spellings ks) = ⟨ts ++ [⟨.eof, l'⟩], none⟩ := by
  induction ks generalizing l with
  | nil =>
    refine ⟨[], rfl, l, ?_⟩
    rw [scanFrom.eq_def]
    rfl
  | cons k ks ih =>
    obtain ⟨spelled, maximal, rest⟩ := h
    obtain ⟨ts, kinds, l', read⟩ := ih rest (l.after k.spelling)
    refine ⟨⟨k, l⟩ :: ts, by simp [kinds], l', ?_⟩
    rw [List.append_nil] at maximal
    change scanFrom l (k.spelling ++ spellings ks) = _
    rw [scanFrom_spelled spelled maximal, read]
    rfl

theorem tokenize_spellings {ks : List Kind} (h : Legible ks []) :
    ∃ ts : List Token, ts.map (·.kind) = ks ∧ ∃ l,
      tokenize (String.ofList (spellings ks)) = .ok (ts ++ [⟨.eof, l⟩]) := by
  obtain ⟨ts, kinds, l, read⟩ := scanFrom_spellings h .start
  refine ⟨ts, kinds, l, ?_⟩
  simp only [tokenize, scan, String.toList_ofList, read]

end Token

end PatternAction
