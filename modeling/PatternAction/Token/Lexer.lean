import PatternAction.Text.Blank
import PatternAction.Text.Letter
import PatternAction.Token

/-!
Cutting a script into tokens.  The text is a sequence of gaps and lexemes: a gap is blanks and
comments, a lexeme is the spelling of one token, taken as long as possible.  Nothing is lost, and
a token's place is found by walking over the characters in front of it.
-/

set_option autoImplicit false
set_option relaxedAutoImplicit false

namespace PatternAction

open Text

/-- Why a text is not a sequence of tokens. -/
inductive LexCause where
  | unterminatedString
  | unterminatedPattern
  | unrecognized (c : Char)
deriving DecidableEq, Repr

def LexCause.message : LexCause → String
  | .unterminatedString => "unterminated string literal"
  | .unterminatedPattern => "unterminated pattern literal"
  | .unrecognized c => "unrecognized character '" ++ c.toString ++ "'"

/-- A cause with the place of the lexeme that could not be read. -/
structure LexFault where
  cause : LexCause
  location : Location
deriving DecidableEq, Repr

namespace Token

/-- Whether a gap goes on with `c`; a comment takes everything up to the end of its line. -/
def inGap (comment : Bool) (c : Char) : Bool :=
  c != '\n' && (comment || c == '#' || isBlank c)

/-- Split off the gap in front: blanks other than newlines, and comments. -/
def splitGap (comment : Bool) : List Char → List Char × List Char
  | [] => ([], [])
  | c :: cs =>
    if inGap comment c then
      let (gap, rest) := splitGap (comment || c == '#') cs
      (c :: gap, rest)
    else ([], c :: cs)

/-- One lexeme: what it is, how it is written, and the text behind it. -/
structure Lexeme where
  kind : Kind
  spelling : List Char
  rest : List Char
deriving DecidableEq, Repr

/-- The body of a string up to its closing quote; an escaped character never closes it. -/
def stringBody : List Char → Option (List Char × List Char)
  | [] => none
  | '"' :: cs => some ([], cs)
  | '\\' :: c :: cs => (stringBody cs).map fun (body, rest) => ('\\' :: c :: body, rest)
  | c :: cs => (stringBody cs).map fun (body, rest) => (c :: body, rest)

def patternBody : List Char → Option (List Char × List Char)
  | [] => none
  | c :: cs =>
    if c = '\x60' then some ([], cs)
    else (patternBody cs).map fun (body, rest) => (c :: body, rest)

def numberBody (seenPoint : Bool) : List Char → List Char × List Char
  | [] => ([], [])
  | c :: cs =>
    if c.isDigit || (c == '.' && !seenPoint) then
      let (body, rest) := numberBody (seenPoint || c == '.') cs
      (c :: body, rest)
    else ([], c :: cs)

def wordBody (cs : List Char) : List Char × List Char :=
  (cs.takeWhile isWordChar, cs.dropWhile isWordChar)

def wordKind (body : List Char) : Kind :=
  match Keyword.ofSpelling? (String.ofList body) with
  | some k => .keyword k
  | none => .word (String.ofList body)

/-- A number; glued to a letter it is a word instead, and never a reserved one. -/
def numberLexeme (cs : List Char) : Lexeme :=
  let (body, rest) := numberBody false cs
  if rest.head?.any isLetter then
    let (tail, rest) := wordBody rest
    ⟨.word (String.ofList (body ++ tail)), body ++ tail, rest⟩
  else ⟨.number (String.ofList body), body, rest⟩

/-- A separator or a symbol, two characters long where that is possible. -/
def symbolLexeme? (c : Char) (cs : List Char) : Option Lexeme :=
  match cs with
  | d :: ds =>
    match Symbol.ofSpelling? [c, d] with
    | some s => some ⟨.symbol s, [c, d], ds⟩
    | none => single
  | [] => single
where
  single : Option Lexeme :=
    if c = ';' ∨ c = '\n' then some ⟨.separator, [c], cs⟩
    else (Symbol.ofSpelling? [c]).map fun s => ⟨.symbol s, [c], cs⟩

def lexeme (c : Char) (cs : List Char) : Except LexCause Lexeme :=
  if c = '"' then
    match stringBody cs with
    | some (body, rest) => .ok ⟨.string (String.ofList body), '"' :: body ++ ['"'], rest⟩
    | none => .error .unterminatedString
  else if c = '\x60' then
    match patternBody cs with
    | some (body, rest) => .ok ⟨.pattern (String.ofList body), '\x60' :: body ++ ['\x60'], rest⟩
    | none => .error .unterminatedPattern
  else if c.isDigit || (c == '.' && cs.head?.any Char.isDigit) then
    .ok (numberLexeme (c :: cs))
  else if isWordStart c then
    let (body, rest) := wordBody (c :: cs)
    .ok ⟨wordKind body, body, rest⟩
  else match symbolLexeme? c cs with
    | some l => .ok l
    | none => .error (.unrecognized c)

/-! ## Nothing is lost -/

theorem splitGap_append (comment : Bool) (cs : List Char) :
    (splitGap comment cs).1 ++ (splitGap comment cs).2 = cs := by
  induction cs generalizing comment with
  | nil => rfl
  | cons c cs ih =>
    simp only [splitGap]
    split
    · simp [ih]
    · rfl

theorem stringBody_append {cs body rest : List Char} (h : stringBody cs = some (body, rest)) :
    body ++ '"' :: rest = cs := by
  fun_induction stringBody cs generalizing body rest with
  | case1 => simp at h
  | case2 cs =>
    simp only [Option.some.injEq, Prod.mk.injEq] at h
    simp [← h.1, ← h.2]
  | case3 c cs ih =>
    obtain ⟨p, hp, he⟩ := Option.map_eq_some_iff.1 h
    simp only [Prod.mk.injEq] at he
    simp [← he.1, ← he.2, ih hp]
  | case4 c cs _ _ ih =>
    obtain ⟨p, hp, he⟩ := Option.map_eq_some_iff.1 h
    simp only [Prod.mk.injEq] at he
    simp [← he.1, ← he.2, ih hp]

theorem patternBody_append {cs body rest : List Char} (h : patternBody cs = some (body, rest)) :
    body ++ '\x60' :: rest = cs := by
  induction cs generalizing body rest with
  | nil => simp [patternBody] at h
  | cons c cs ih =>
    simp only [patternBody] at h
    split at h
    · rename_i hc
      simp only [Option.some.injEq, Prod.mk.injEq] at h
      simp [← h.1, ← h.2, hc]
    · obtain ⟨p, hp, he⟩ := Option.map_eq_some_iff.1 h
      simp only [Prod.mk.injEq] at he
      simp [← he.1, ← he.2, ih hp]

theorem numberBody_append (seen : Bool) (cs : List Char) :
    (numberBody seen cs).1 ++ (numberBody seen cs).2 = cs := by
  induction cs generalizing seen with
  | nil => rfl
  | cons c cs ih =>
    simp only [numberBody]
    split
    · simp [ih]
    · rfl

theorem wordBody_append (cs : List Char) : (wordBody cs).1 ++ (wordBody cs).2 = cs := by
  simp [wordBody, List.takeWhile_append_dropWhile]

theorem numberLexeme_append (cs : List Char) :
    (numberLexeme cs).spelling ++ (numberLexeme cs).rest = cs := by
  simp only [numberLexeme]
  split
  · simp only [List.append_assoc, wordBody_append]
    exact numberBody_append false cs
  · exact numberBody_append false cs

theorem symbolLexeme?_append {c : Char} {cs : List Char} {l : Lexeme}
    (h : symbolLexeme? c cs = some l) : l.spelling ++ l.rest = c :: cs := by
  have single : ∀ l, symbolLexeme?.single c cs = some l → l.spelling ++ l.rest = c :: cs := by
    intro l h
    simp only [symbolLexeme?.single] at h
    split at h
    · simp only [Option.some.injEq] at h
      simp [← h]
    · obtain ⟨s, _, he⟩ := Option.map_eq_some_iff.1 h
      simp [← he]
  simp only [symbolLexeme?] at h
  split at h
  · split at h
    · simp only [Option.some.injEq] at h
      simp [← h]
    · exact single l h
  · exact single l h

theorem lexeme_append {c : Char} {cs : List Char} {l : Lexeme} (h : lexeme c cs = .ok l) :
    l.spelling ++ l.rest = c :: cs := by
  simp only [lexeme] at h
  split at h
  · split at h
    · rename_i hc _ _ _ hb
      simp only [Except.ok.injEq] at h
      simp [← h, hc, ← stringBody_append hb]
    · simp at h
  · split at h
    · split at h
      · rename_i hc _ _ _ hb
        simp only [Except.ok.injEq] at h
        simp [← h, hc, ← patternBody_append hb]
      · simp at h
    · split at h
      · simp only [Except.ok.injEq] at h
        rw [← h]
        exact numberLexeme_append (c :: cs)
      · split at h
        · simp only [Except.ok.injEq] at h
          rw [← h]
          exact wordBody_append (c :: cs)
        · split at h
          · rename_i hs
            simp only [Except.ok.injEq] at h
            rw [← h]
            exact symbolLexeme?_append hs
          · simp at h

private theorem numberBody_length_pos {c : Char} {cs : List Char}
    (h : (c.isDigit || c == '.') = true) : 0 < (numberBody false (c :: cs)).1.length := by
  simp [numberBody, h]

theorem lexeme_spelling_length_pos {c : Char} {cs : List Char} {l : Lexeme}
    (h : lexeme c cs = .ok l) : 0 < l.spelling.length := by
  simp only [lexeme] at h
  split at h
  · split at h
    · simp only [Except.ok.injEq] at h
      simp [← h]
    · simp at h
  · split at h
    · split at h
      · simp only [Except.ok.injEq] at h
        simp [← h]
      · simp at h
    · split at h
      · rename_i hd
        have hd : (c.isDigit || c == '.') = true := by
          simp only [Bool.or_eq_true, Bool.and_eq_true] at hd ⊢
          rcases hd with hd | hd
          · exact .inl hd
          · exact .inr hd.1
        have pos : 0 < (numberBody false (c :: cs)).1.length := numberBody_length_pos hd
        simp only [Except.ok.injEq] at h
        rw [← h]
        simp only [numberLexeme]
        split
        · simp only [List.length_append]
          omega
        · exact pos
      · split at h
        · rename_i hw
          simp only [Except.ok.injEq] at h
          rw [← h]
          simp [wordBody, isWordChar_of_isWordStart hw]
        · split at h
          · rename_i l' hs
            simp only [Except.ok.injEq] at h
            subst h
            have single : ∀ l, symbolLexeme?.single c cs = some l → 0 < l.spelling.length := by
              intro l h
              simp only [symbolLexeme?.single] at h
              split at h
              · simp only [Option.some.injEq] at h
                simp [← h]
              · obtain ⟨s, _, he⟩ := Option.map_eq_some_iff.1 h
                simp [← he]
            simp only [symbolLexeme?] at hs
            split at hs
            · split at hs
              · simp only [Option.some.injEq] at hs
                simp [← hs]
              · exact single _ hs
            · exact single _ hs
          · simp at h

theorem lexeme_rest_length_lt {cs tail : List Char} {c : Char} {l : Lexeme}
    (hg : (splitGap false cs).2 = c :: tail) (h : lexeme c tail = .ok l) :
    l.rest.length < cs.length := by
  have gap := congrArg List.length (splitGap_append false cs)
  have cut := congrArg List.length (lexeme_append h)
  have pos := lexeme_spelling_length_pos h
  rw [hg] at gap
  simp only [List.length_append, List.length_cons] at gap cut
  omega

/-! ## The whole text -/

/-- The tokens read, and the fault that ended the reading, if one did. -/
structure Scan where
  tokens : List Token
  fault? : Option LexFault
deriving DecidableEq, Repr

def scanFrom (l : Location) (cs : List Char) : Scan :=
  let l := l.after (splitGap false cs).1
  match hg : (splitGap false cs).2 with
  | [] => ⟨[⟨.eof, l⟩], none⟩
  | c :: tail =>
    match h : lexeme c tail with
    | .error cause => ⟨[], some ⟨cause, l⟩⟩
    | .ok x =>
      have _shorter : x.rest.length < cs.length := lexeme_rest_length_lt hg h
      let more := scanFrom (l.after x.spelling) x.rest
      ⟨⟨x.kind, l⟩ :: more.tokens, more.fault?⟩
termination_by cs.length

/-- Read every token of a script, up to the end or the first fault. -/
def scan (source : String) : Scan :=
  scanFrom .start source.toList

def tokenize (source : String) : Except LexFault (List Token) :=
  match (scan source).fault? with
  | some fault => .error fault
  | none => .ok (scan source).tokens

end Token

end PatternAction
