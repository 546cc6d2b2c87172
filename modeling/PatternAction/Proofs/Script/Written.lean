import PatternAction.Proofs.Script.Grammar
import PatternAction.Proofs.Token.Legible

/-!
Expressions written out as a script.  Every operand is put in parentheses, so the text says how it
is to be grouped without any regard to precedence.  The main statement is that the tokens of such
a text are read back from it.
-/

set_option autoImplicit false
set_option relaxedAutoImplicit false

namespace PatternAction

open Token (Kind)
open Token.Kind (Legible spellings legible_append)
open Text

/-- A text that is read as one word of the script's own. -/
def IsName (text : String) : Prop :=
  ∃ l l', Token.tokenize text = .ok [⟨.word text, l⟩, ⟨.eof, l'⟩]

namespace Parser

/-- A text as the body of a string: backslashes and quotes are escaped. -/
def encodeEscapes : List Char → List Char
  | [] => []
  | c :: cs =>
    if c = '\\' ∨ c = '"' then '\\' :: c :: encodeEscapes cs else c :: encodeEscapes cs

theorem decodeEscapes_encodeEscapes (cs : List Char) : decodeEscapes (encodeEscapes cs) = cs := by
  induction cs with
  | nil => rfl
  | cons c cs ih =>
    by_cases special : c = '\\' ∨ c = '"'
    · rw [encodeEscapes, if_pos special]
      rcases special with rfl | rfl
      · simp [decodeEscapes, ih]
      · simp [decodeEscapes, ih]
    · rw [encodeEscapes, if_neg special]
      simp only [not_or] at special
      simp [decodeEscapes, special.1, ih]

private theorem stringText_encodeEscapes (cs : List Char) :
    Token.StringText (encodeEscapes cs) := by
  induction cs with
  | nil => exact .nil
  | cons c cs ih =>
    by_cases special : c = '\\' ∨ c = '"'
    · rw [encodeEscapes, if_pos special]
      exact .escaped c ih
    · rw [encodeEscapes, if_neg special]
      simp only [not_or] at special
      exact .plain special.2 special.1 ih

end Parser

namespace Operator

/-- The tokens of an operator; operands put next to each other have none between them. -/
def kinds : Operator → List Kind
  | .preInc | .postInc => [.symbol .increment]
  | .preDec | .postDec => [.symbol .decrement]
  | .dollar => [.symbol .dollar]
  | .unaryNeg | .subtract => [.symbol .minus]
  | .unaryPos | .add => [.symbol .plus]
  | .not => [.symbol .not]
  | .eq => [.symbol .equal]
  | .ne => [.symbol .notEqual]
  | .lt => [.symbol .less]
  | .le => [.symbol .lessEqual]
  | .gt => [.symbol .greater]
  | .ge => [.symbol .greaterEqual]
  | .and => [.symbol .and]
  | .or => [.symbol .or]
  | .match => [.symbol .match]
  | .notMatch => [.symbol .notMatch]
  | .exponent => [.symbol .caret]
  | .multiply => [.symbol .star]
  | .divide => [.symbol .slash]
  | .modulo => [.symbol .percent]
  | .concatenation => []
  | .in => [.keyword .in]

/-- The token of an assignment by an operator; most operators have none. -/
def assignKinds (op : Operator) : List Kind :=
  (Grammar.compounds.filter (·.2 = op)).map (.symbol ·.1)

end Operator

def grouped (ks : List Kind) : List Kind :=
  .symbol .leftParen :: (ks ++ [Kind.symbol .rightParen])

namespace Expr

mutual

def erase : Expr → Expr
  | .const text => .const text
  | .pattern text => .pattern text
  | .var name _ => .var name .unknown
  | .elem name index _ => .elem name index.erase .unknown
  | .unary op operand _ => .unary op operand.erase .unknown
  | .binary op left right _ => .binary op left.erase right.erase .unknown
  | .ternary condition whenTrue whenFalse _ =>
    .ternary condition.erase whenTrue.erase whenFalse.erase .unknown
  | .call name args _ => .call name (eraseList args) .unknown
  | .assign form target value _ => .assign form target.erase value.erase .unknown

def eraseList : List Expr → List Expr
  | [] => []
  | e :: es => e.erase :: eraseList es

end

theorem eraseList_eq_map (es : List Expr) : eraseList es = es.map erase := by
  induction es with
  | nil => rfl
  | cons e es ih => rw [eraseList, ih, List.map_cons]

theorem erase_call (name : String) (args : List Expr) (l : Location) :
    (call name args l).erase = .call name (args.map erase) .unknown := by
  rw [erase, eraseList_eq_map]

mutual

/-- The tokens of an expression with every operand in parentheses.  An assignment whose value is
not what its form stands for is not written. -/
def written : Expr → List Kind
  | .const text => [.string (String.ofList (Parser.encodeEscapes text.toList))]
  | .pattern text => [.pattern text]
  | .var name _ => [.word name]
  | .elem name index _ =>
    .word name :: .symbol .leftBracket :: (index.written ++ [Kind.symbol .rightBracket])
  | .unary op operand _ => op.kinds ++ grouped operand.written
  | .binary op left right _ => grouped left.written ++ (op.kinds ++ grouped right.written)
  | .ternary condition whenTrue whenFalse _ =>
    grouped condition.written ++ Kind.symbol .question ::
      (grouped whenTrue.written ++ Kind.symbol .colon :: grouped whenFalse.written)
  | .call name args _ => .word name :: grouped (writtenList args)
  | .assign .plain target value _ =>
    grouped target.written ++ Kind.symbol .assign :: grouped value.written
  | .assign (.compound _) target (.binary op _ value _) _ =>
    grouped target.written ++ (op.assignKinds ++ grouped value.written)
  | .assign .step target (.unary op _ _) _ =>
    if op.isLeading then op.kinds ++ grouped target.written
    else grouped target.written ++ op.kinds
  | .assign _ _ _ _ => []

def writtenList : List Expr → List Kind
  | [] => []
  | e :: es => e.written ++ writtenTail es

def writtenTail : List Expr → List Kind
  | [] => []
  | e :: es => .symbol .comma :: (e.written ++ writtenTail es)

end

/-- The expression as the text of a script. -/
def source (e : Expr) : String :=
  String.ofList (spellings e.written)

/-- The trees that have a written form: names are words of the script's own, no pattern has the
closing mark in it, an operator has as many operands as it takes, `++` and `--` stand only in the
value of a step of the same operand, and an assignment by an operator combines its own target with
what was written. -/
inductive Formed : Expr → Prop
  | const (text : String) : Formed (.const text)
  | pattern {text : String} : '\x60' ∉ text.toList → Formed (.pattern text)
  | var {name : String} {l : Location} : IsName name → Formed (.var name l)
  | elem {name : String} {index : Expr} {l : Location} : IsName name → Formed index →
      Formed (.elem name index l)
  | unary {op : Operator} {operand : Expr} {l : Location} :
      op ∈ [.dollar, .unaryNeg, .unaryPos, .not] → Formed operand → Formed (.unary op operand l)
  | binary {op : Operator} {left right : Expr} {l : Location} : op.isBinary → Formed left →
      Formed right → Formed (.binary op left right l)
  | ternary {c a b : Expr} {l : Location} : Formed c → Formed a → Formed b →
      Formed (.ternary c a b l)
  | call {name : String} {args : List Expr} {l : Location} : IsName name →
      (∀ e ∈ args, Formed e) → Formed (.call name args l)
  | plain {target value : Expr} {l : Location} : Formed target → Formed value →
      Formed (.assign .plain target value l)
  | compound {op : Operator} {target target' value : Expr} {l l' : Location} :
      op ∈ [.add, .subtract, .multiply, .divide, .modulo, .exponent] →
      target'.erase = target.erase → Formed target → Formed value →
      Formed (.assign (.compound op) target (.binary op target' value l') l)
  | step {op : Operator} {target target' : Expr} {l l' : Location} :
      op ∈ [.preInc, .preDec, .postInc, .postDec] → target'.erase = target.erase →
      Formed target → Formed (.assign .step target (.unary op target' l') l)

example : (Expr.binary .exponent (.assign .step (.var "x" .start) (.unary .postInc
      (.var "x" .start) .start) .start) (.call "f" [.const "a\"", .const ""] .start)
      .start).source =
    "((x)++)^(f(\"a\\\"\",\"\"))" := by decide

end Expr

/-! ## Reading the tokens back -/

private theorem IsName.wordText {text : String} (h : IsName text) : Token.WordText text.toList := by
  obtain ⟨l, l', read⟩ := h
  have tokens : (Token.scanFrom .start text.toList).tokens = [⟨.word text, l⟩, ⟨.eof, l'⟩] := by
    simp only [Token.tokenize, Token.scan] at read
    split at read
    · cases read
    · exact Except.ok.inj read
  rw [Token.scanFrom.eq_def] at tokens
  split at tokens
  · cases tokens
  · split at tokens
    · cases tokens
    · rename_i x success
      obtain ⟨spelled, -⟩ := Token.lexeme_spelled success
      obtain ⟨first, -⟩ := List.cons.inj tokens
      have word : x.kind = .word text := congrArg Token.kind first
      rw [word] at spelled
      exact spelled.1 ▸ spelled.2

theorem isName_iff {text : String} : IsName text ↔ Token.WordText text.toList := by
  refine ⟨IsName.wordText, fun word => ?_⟩
  have alone : (Kind.word text).Maximal text.toList [] := by
    intro d none
    cases none
  have legible : Legible [.word text] [] := ⟨⟨rfl, word⟩, alone, trivial⟩
  obtain ⟨ts, kinds, l', read⟩ := Token.tokenize_spellings legible
  obtain ⟨⟨kind, l⟩, rfl, rfl⟩ : ∃ t : Token, ts = [t] ∧ t.kind = .word text := by
    simpa [List.map_eq_singleton_iff] using kinds
  refine ⟨l, l', ?_⟩
  simpa [spellings, Kind.spelling] using read

def Stops (rest : List Char) : Prop :=
  ∀ d, rest.head? = some d → ¬ isWordChar d

namespace Symbol

/-- No symbol is longer than two characters, none of two ends with a parenthesis, and none goes on
from a bracket or a comma. -/
private theorem maximal_spelling (s : Symbol) {rest : List Char}
    (h : s ∈ [leftParen, rightParen, leftBracket, rightBracket, comma] ∨ s.spelling.length = 2 ∨
      rest.head? = some '(') : (Kind.symbol s).Maximal s.spelling rest := by
  intro d s' head longer
  rcases h with bracket | two | paren
  · have alone : ∀ s ∈ [leftParen, rightParen, leftBracket, rightBracket, comma],
        ∀ s' ∈ all, s'.spelling.take 1 = s.spelling → s'.spelling.length = 1 := by decide
    have one : ∀ s ∈ [leftParen, rightParen, leftBracket, rightBracket, comma],
        s.spelling.length = 1 := by decide
    have short := alone s bracket s' (mem_all s') (by
      rw [longer, ← one s bracket, List.take_left])
    rw [longer, List.length_append, one s bracket] at short
    simp at short
  · have short := s'.length_spelling_le
    rw [longer, List.length_append, two] at short
    simp at short
  · obtain rfl : '(' = d := Option.some.inj (paren.symm.trans head)
    have alone : ∀ s' ∈ all, s'.spelling.getLast? = some '(' → s'.spelling.length = 1 := by decide
    have short := alone s' (mem_all s') (by rw [longer, List.getLast?_concat])
    obtain ⟨c, cs, first, -⟩ := s.head_spelling
    rw [longer, first] at short
    simp at short

end Symbol

section Legible

variable {ks js : List Kind} {rest : List Char}

private theorem legible_symbol {s : Symbol}
    (h : s ∈ [Symbol.leftParen, .rightParen, .leftBracket, .rightBracket, .comma] ∨
      s.spelling.length = 2 ∨ (spellings ks ++ rest).head? = some '(')
    (legible : Legible ks rest) : Legible (.symbol s :: ks) rest :=
  ⟨rfl, s.maximal_spelling h, legible⟩

private theorem legible_word {text : String} (name : IsName text)
    (stops : Stops (spellings ks ++ rest)) (legible : Legible ks rest) : Legible (.word text :: ks)
    rest :=
  ⟨⟨rfl, name.wordText⟩, stops, legible⟩

private theorem stops_symbol (s : Symbol) (ks : List Kind) (rest : List Char) :
    Stops (spellings (.symbol s :: ks) ++ rest) := by
  have all : ∀ s : Symbol, s.spelling.head?.all (isWordChar · == false) := by
    intro s
    cases s <;> decide
  intro d head
  obtain ⟨c, cs, first, -⟩ := s.head_spelling
  have same : (s.spelling ++ spellings ks ++ rest).head? = some d := head
  have free := all s
  rw [first] at same free
  obtain rfl : c = d := by simpa using same
  simpa using free

private theorem legible_grouped_append (inner : ∀ rest, Stops rest → Legible ks rest)
    (legible : Legible js rest) :
    Legible (grouped ks ++ js) rest := by
  have close : Legible (.symbol .rightParen :: js) rest :=
    legible_symbol (.inl (by decide)) legible
  have whole : Legible (ks ++ Kind.symbol .rightParen :: js) rest :=
    legible_append.mpr ⟨inner _ (stops_symbol _ _ _), close⟩
  have split : grouped ks ++ js = .symbol .leftParen :: (ks ++ Kind.symbol .rightParen :: js) := by
    simp [grouped]
  rw [split]
  exact legible_symbol (.inl (by decide)) whole

private theorem legible_grouped (inner : ∀ rest, Stops rest → Legible ks rest) :
    Legible (grouped ks) rest := by
  rw [← List.append_nil (grouped ks)]
  exact legible_grouped_append inner trivial

private theorem legible_kinds (op : Operator) (paren : (spellings js ++ rest).head? = some '(')
    (legible : Legible js rest) : Legible (op.kinds ++ js) rest := by
  cases op with
  | concatenation => exact legible
  | «in» =>
    refine ⟨rfl, ?_, legible⟩
    intro d head
    obtain rfl : '(' = d := Option.some.inj (paren.symm.trans head)
    decide
  | _ => exact legible_symbol (.inr (.inr paren)) legible

private theorem legible_assignKinds {op : Operator}
    (mem : op ∈ [Operator.add, .subtract, .multiply, .divide, .modulo, .exponent])
    (legible : Legible js rest) : Legible (op.assignKinds ++ js) rest := by
  simp only [List.mem_cons, List.not_mem_nil, or_false] at mem
  rcases mem with rfl | rfl | rfl | rfl | rfl | rfl
  all_goals exact legible_symbol (.inr (.inl rfl)) legible

private theorem legible_writtenTail {es : List Expr}
    (all : ∀ e ∈ es, ∀ rest, Stops rest → Legible e.written rest) (stops : Stops rest) :
    Legible (Expr.writtenTail es) rest ∧ Stops (spellings (Expr.writtenTail es) ++ rest) := by
  induction es with
  | nil => exact ⟨trivial, by simpa [Expr.writtenTail, spellings] using stops⟩
  | cons e es ih =>
    obtain ⟨tail, stopsTail⟩ := ih fun e mem => all e (List.mem_cons_of_mem _ mem)
    have first := all e List.mem_cons_self _ stopsTail
    rw [Expr.writtenTail]
    refine ⟨legible_symbol (.inl (by decide)) (legible_append.mpr ⟨first, tail⟩), ?_⟩
    exact stops_symbol _ _ _

end Legible

private theorem Expr.Formed.legible {e : Expr} (formed : e.Formed) :
    ∀ rest, Stops rest → Legible e.written rest := by
  induction formed with
  | const text =>
    intro rest _
    exact ⟨⟨rfl, by simpa using Parser.stringText_encodeEscapes text.toList⟩, trivial, trivial⟩
  | pattern free =>
    intro rest _
    exact ⟨⟨rfl, free⟩, trivial, trivial⟩
  | var name =>
    intro rest stops
    exact legible_word name stops trivial
  | elem name _ ih =>
    intro rest stops
    have close : Legible [.symbol .rightBracket] rest := legible_symbol (.inl (by decide)) trivial
    refine legible_word name (stops_symbol _ _ _) (legible_symbol (.inl (by decide)) ?_)
    exact legible_append.mpr ⟨ih _ (stops_symbol _ _ _), close⟩
  | @unary op operand l _ _ ih =>
    intro rest stops
    exact legible_kinds op rfl (legible_grouped ih)
  | @binary op left right l _ _ _ ihLeft ihRight =>
    intro rest stops
    exact legible_grouped_append ihLeft (legible_kinds op rfl (legible_grouped ihRight))
  | @ternary c a b l _ _ _ ihCondition ihTrue ihFalse =>
    intro rest stops
    refine legible_grouped_append ihCondition (legible_symbol (.inr (.inr rfl)) ?_)
    exact legible_grouped_append ihTrue (legible_symbol (.inr (.inr rfl)) (legible_grouped ihFalse))
  | @call name args l isName _ ih =>
    intro rest stops
    have inner : ∀ rest, Stops rest → Legible (Expr.writtenList args) rest := by
      intro rest stops
      cases args with
      | nil => trivial
      | cons e es =>
        obtain ⟨tail, stopsTail⟩ := legible_writtenTail
          (fun e mem => ih e (List.mem_cons_of_mem _ mem)) stops
        exact legible_append.mpr ⟨ih e List.mem_cons_self _ stopsTail, tail⟩
    exact legible_word isName (stops_symbol _ _ _) (legible_grouped inner)
  | @plain target value l _ _ ihTarget ihValue =>
    intro rest stops
    exact legible_grouped_append ihTarget
      (legible_symbol (.inr (.inr rfl)) (legible_grouped ihValue))
  | @compound op target target' value l l' mem _ _ _ ihTarget ihValue =>
    intro rest stops
    exact legible_grouped_append ihTarget (legible_assignKinds mem (legible_grouped ihValue))
  | @step op target target' l l' mem _ _ ih =>
    intro rest stops
    simp only [List.mem_cons, List.not_mem_nil, or_false] at mem
    rw [Expr.written]
    split
    · exact legible_kinds op rfl (legible_grouped ih)
    · rename_i trailing
      refine legible_grouped_append ih ?_
      rcases mem with rfl | rfl | rfl | rfl
      all_goals exact legible_symbol (.inr (.inl rfl)) trivial

theorem Expr.Formed.tokenize_source {e : Expr} (formed : e.Formed) :
    ∃ ts : List Token, ts.map (·.kind) = e.written ∧ ∃ l,
      Token.tokenize e.source = .ok (ts ++ [⟨.eof, l⟩]) :=
  Token.tokenize_spellings (formed.legible [] (by simp [Stops]))

end PatternAction
