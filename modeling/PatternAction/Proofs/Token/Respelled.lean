import PatternAction.Proofs.Token.Cut
import PatternAction.Proofs.Token.Legible

/-!
Tokens written again, with one space between neighbours.  No token runs into a space behind it, and
a space is a gap; so each token that was read from some text is read again, whatever it was that
kept it from its neighbours there.  The main statement is that tokenizing what was written again
gives tokens of the same kinds, with the same texts.
-/

set_option autoImplicit false
set_option relaxedAutoImplicit false

namespace PatternAction.Token

open Text

namespace Kind

/-- The one way in which a token is written again: a separator as a semicolon.  The end is written
as nothing. -/
def canonical : Kind → List Char
  | .separator => [';']
  | kind => kind.spelling

/-- Tokens written again, with one space between neighbours. -/
def respelled (ks : List Kind) : List Char :=
  List.intercalate [' '] (ks.map canonical)

def spaced (ks : List Kind) : List Char :=
  ks.flatMap fun k => ' ' :: k.canonical

private theorem respelled_cons (k : Kind) (ks : List Kind) :
    respelled (k :: ks) = k.canonical ++ spaced ks := by
  induction ks generalizing k with
  | nil => simp [respelled, spaced]
  | cons j ks ih =>
    have next : respelled (k :: j :: ks) = k.canonical ++ ' ' :: respelled (j :: ks) := by
      simp [respelled, List.intercalate]
    rw [next, ih]
    simp [spaced]

private theorem Spelled.canonical {kind : Kind} {cs : List Char} (h : kind.Spelled cs) :
    kind.Spelled kind.canonical := by
  cases kind with
  | word text | number text =>
    obtain ⟨rfl, shape⟩ := h
    exact ⟨rfl, shape⟩
  | string text => exact ⟨rfl, h.2⟩
  | pattern text => exact ⟨rfl, h.2⟩
  | keyword k => rfl
  | symbol s => rfl
  | separator => exact .inl rfl
  | eof => exact h.elim

private theorem maximal_of_space {kind : Kind} {cs rest : List Char}
    (space : ∀ d, rest.head? = some d → d = ' ') : kind.Maximal cs rest := by
  have symbols : ∀ s : Symbol, s.spelling.getLast? ≠ some ' ' := by
    intro s
    cases s <;> decide
  cases kind with
  | word text | keyword k =>
    intro d head
    rw [space d head]
    decide
  | number text =>
    intro d head
    rw [space d head]
    exact ⟨by decide, by decide, fun point => absurd point (by decide)⟩
  | symbol s | separator =>
    intro d longer head spelling
    refine symbols longer ?_
    rw [spelling, List.getLast?_concat, space d head]
  | string text | pattern text | eof => trivial

end Kind

open Kind

private theorem scanFrom_space (l : Location) (cs : List Char) :
    scanFrom l (' ' :: cs) = scanFrom (l.after [' ']) cs := by
  have gap : splitGap false (' ' :: cs) =
      (' ' :: (splitGap false cs).1, (splitGap false cs).2) := by
    simp [splitGap, inGap, isBlank]
  have place : l.after (' ' :: (splitGap false cs).1) =
      (l.after [' ']).after (splitGap false cs).1 :=
    l.after_append [' '] (splitGap false cs).1
  have behind : (splitGap false (' ' :: cs)).2 = (splitGap false cs).2 := by rw [gap]
  rw [scanFrom.eq_def, scanFrom.eq_def (l.after [' '])]
  simp only [gap, place]
  generalize (splitGap false (' ' :: cs)).2 = rest at behind ⊢
  subst behind
  rfl

private theorem head?_spaced (ks : List Kind) {rest : List Char}
    (space : rest = [] ∨ rest = [' ']) :
    ∀ d, (spaced ks ++ rest).head? = some d → d = ' ' := by
  cases ks with
  | nil => rcases space with rfl | rfl <;> simp [spaced]
  | cons k ks => simp [spaced]

private theorem scanFrom_spaced {ks : List Kind} (spelled : ∀ k ∈ ks, k.Spelled k.canonical)
    {rest : List Char} (space : rest = [] ∨ rest = [' ']) (l : Location) :
    ∃ ts : List Token, ts.map (·.kind) = ks ∧ ∃ l',
      scanFrom l (spaced ks ++ rest) = ⟨ts ++ [⟨.eof, l'⟩], none⟩ := by
  induction ks generalizing l with
  | nil =>
    refine ⟨[], rfl, l.after rest, ?_⟩
    rcases space with rfl | rfl
    · rw [scanFrom.eq_def]
      rfl
    · change scanFrom l [' '] = _
      rw [scanFrom_space, scanFrom.eq_def]
      rfl
  | cons k ks ih =>
    obtain ⟨here, behind⟩ := List.forall_mem_cons.mp spelled
    obtain ⟨ts, kinds, l', read⟩ := ih behind ((l.after [' ']).after k.canonical)
    refine ⟨⟨k, l.after [' ']⟩ :: ts, by simp [kinds], l', ?_⟩
    have apart := head?_spaced ks space
    have written : spaced (k :: ks) ++ rest = ' ' :: (k.canonical ++ (spaced ks ++ rest)) := by
      simp [spaced]
    rw [written, scanFrom_space, scanFrom_spelled here (maximal_of_space apart), read]
    rfl

private theorem tokenize_canonical {ks : List Kind} (spelled : ∀ k ∈ ks, k.Spelled k.canonical)
    {rest : List Char} (space : rest = [] ∨ rest = [' ']) :
    ∃ ts : List Token, ts.map (·.kind) = ks ∧ ∃ l,
      tokenize (String.ofList (respelled ks ++ rest)) = .ok (ts ++ [⟨.eof, l⟩]) := by
  have scanned : ∃ ts : List Token, ts.map (·.kind) = ks ∧ ∃ l,
      scanFrom .start (respelled ks ++ rest) = ⟨ts ++ [⟨.eof, l⟩], none⟩ := by
    cases ks with
    | nil => exact scanFrom_spaced spelled space .start
    | cons k ks =>
      obtain ⟨here, behind⟩ := List.forall_mem_cons.mp spelled
      obtain ⟨ts, kinds, l, read⟩ :=
        scanFrom_spaced behind space (Location.start.after k.canonical)
      refine ⟨⟨k, .start⟩ :: ts, by simp [kinds], l, ?_⟩
      have apart := head?_spaced ks space
      rw [respelled_cons, List.append_assoc, scanFrom_spelled here (maximal_of_space apart), read]
      rfl
  obtain ⟨ts, kinds, l, read⟩ := scanned
  refine ⟨ts, kinds, l, ?_⟩
  simp only [tokenize, scan, String.toList_ofList, read]

private theorem respelled_concat_eof (ks : List Kind) :
    ∃ rest, (rest = [] ∨ rest = [' ']) ∧ respelled (ks ++ [Kind.eof]) = respelled ks ++ rest := by
  cases ks with
  | nil => exact ⟨[], .inl rfl, rfl⟩
  | cons k ks =>
    refine ⟨[' '], .inr rfl, ?_⟩
    rw [List.cons_append, respelled_cons, respelled_cons]
    simp [spaced, canonical, spelling]

/-- The tokens of any text, written again with one space between neighbours, are read back: the
kinds are the same, in the same order and with the same texts.  The last token is the end, which is
written as nothing; that is so with and without a space in front of it. -/
theorem tokenize_respelled {source : String} {tokens : List Token}
    (read : tokenize source = .ok tokens) :
    ∀ written ∈ [tokens, tokens.dropLast], ∃ again,
      tokenize (String.ofList (respelled (written.map (·.kind)))) = .ok again ∧
        again.map (·.kind) = tokens.map (·.kind) := by
  obtain ⟨front, none, split⟩ := (cut_of_tokenize read).eof
  obtain ⟨l, rfl⟩ : ∃ l, tokens = front ++ [⟨.eof, l⟩] := ⟨_, split⟩
  have spelled : ∀ k ∈ front.map (·.kind), k.Spelled k.canonical := by
    intro k mem
    obtain ⟨t, inFront, rfl⟩ := List.mem_map.mp mem
    rcases spelled_of_tokenize read (List.mem_append_left _ inFront) with eof | ⟨lexeme, spelled⟩
    · exact absurd eof (none t inFront)
    · exact spelled.canonical
  have readBack {rest : List Char} (space : rest = [] ∨ rest = [' ']) : ∃ again,
      tokenize (String.ofList (respelled (front.map (·.kind)) ++ rest)) = .ok again ∧
        again.map (·.kind) = (front ++ [(⟨.eof, l⟩ : Token)]).map (·.kind) := by
    obtain ⟨ts, kinds, l', again⟩ := tokenize_canonical spelled space
    exact ⟨_, again, by simp [kinds]⟩
  intro written mem
  simp only [List.mem_cons, List.not_mem_nil, or_false, List.dropLast_concat] at mem
  rcases mem with rfl | rfl
  · obtain ⟨rest, space, same⟩ := respelled_concat_eof (front.map (·.kind))
    rw [List.map_append, List.map_singleton, same, ← List.map_singleton, ← List.map_append]
    exact readBack space
  · simpa using readBack (.inl rfl)

/-- A word glued to a number, two numbers with points next to each other, a comment, and a string
with an escaped quote and a newline. -/
theorem tokenize_respelled_glued :
    let source := ".5y=1.2.3>=`a b`;#c\n\"q\\\"\n\"--x"
    let text := ".5y = 1.2 .3 >= `a b` ; ; \"q\\\"\n\" -- x"
    ∃ tokens again, tokenize source = .ok tokens ∧
      String.ofList (respelled (tokens.dropLast.map (·.kind))) = text ∧
      tokenize text = .ok again ∧ again.map (·.kind) = tokens.map (·.kind) := by
  intro source text
  have outcome : ((tokenize source).toOption.map fun tokens =>
      String.ofList (respelled (tokens.dropLast.map (·.kind)))) = some text := by decide +kernel
  cases read : tokenize source with
  | error fault =>
    rw [read] at outcome
    cases outcome
  | ok tokens =>
    rw [read] at outcome
    have written : String.ofList (respelled (tokens.dropLast.map (·.kind))) = text :=
      Option.some.inj outcome
    obtain ⟨again, readBack, same⟩ := tokenize_respelled read tokens.dropLast (by simp)
    exact ⟨tokens, again, rfl, written, written ▸ readBack, same⟩

end PatternAction.Token
