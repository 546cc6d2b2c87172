import PatternAction.Script.ExprParser

/-!
The grammar of expressions, as derivations of trees from sequences of tokens.  There are thirteen
levels from the loosest to the tightest; an expression of a level is built with the operators of
that level from operands of the same level or the next, or it is an expression of the next level.
The places that a tree carries are not part of the grammar.
-/

set_option autoImplicit false
set_option relaxedAutoImplicit false

namespace PatternAction.Grammar

open Token (Kind)

def tighter : Level → Level
  | .assignment => .ternary
  | .ternary => .chain .or
  | .chain .or => .chain .and
  | .chain .and => .chain .membership
  | .chain .membership => .chain .matching
  | .chain .matching => .chain .comparison
  | .chain .comparison => .concatenation
  | .concatenation => .chain .additive
  | .chain .additive => .chain .multiplicative
  | .chain .multiplicative => .exponent
  | .exponent => .step
  | .step => .primary
  | .primary => .primary

theorem operand_eq_tighter (chain : Chain) : chain.operand = tighter (.chain chain) := by
  cases chain <;> rfl

/-- The tokens between target and value of an assignment by an operator. -/
def compounds : List (Symbol × Operator) :=
  [(.plusAssign, .add), (.minusAssign, .subtract), (.starAssign, .multiply),
    (.slashAssign, .divide), (.percentAssign, .modulo), (.caretAssign, .exponent)]

/-- The operators of the levels that group to the left, with their tokens. -/
def operators : Chain → List (Kind × Operator)
  | .or => [(.symbol .or, .or)]
  | .and => [(.symbol .and, .and)]
  | .membership => [(.keyword .in, .in)]
  | .matching => [(.symbol .match, .match), (.symbol .notMatch, .notMatch)]
  | .comparison =>
    [(.symbol .less, .lt), (.symbol .lessEqual, .le), (.symbol .notEqual, .ne),
      (.symbol .equal, .eq), (.symbol .greater, .gt), (.symbol .greaterEqual, .ge)]
  | .additive => [(.symbol .plus, .add), (.symbol .minus, .subtract)]
  | .multiplicative =>
    [(.symbol .star, .multiply), (.symbol .slash, .divide), (.symbol .percent, .modulo)]

/-- The signs in front of an operand of the level of powers. -/
def signs : List (Symbol × Operator) :=
  [(.not, .not), (.minus, .unaryNeg), (.plus, .unaryPos)]

def leadingSteps : List (Symbol × Operator) :=
  [(.increment, .preInc), (.decrement, .preDec)]

def trailingSteps : List (Symbol × Operator) :=
  [(.increment, .postInc), (.decrement, .postDec)]

/-- The tokens with which an operand may begin that is put next to another. -/
inductive Joins : Kind → Prop
  | word (text : String) : Joins (.word text)
  | number (text : String) : Joins (.number text)
  | string (text : String) : Joins (.string text)
  | dollar : Joins (.symbol .dollar)
  | leftParen : Joins (.symbol .leftParen)
  | not : Joins (.symbol .not)
  | increment : Joins (.symbol .increment)
  | decrement : Joins (.symbol .decrement)

/-- An argument: its tokens and its tree. -/
abbrev Phrase := List Kind × Expr

/-- Arguments behind a first one, each behind a comma; where it is allowed, separators may stand
behind a comma. -/
inductive BehindCommas (separators : Bool) : List Phrase → List Kind → Prop
  | nil : BehindCommas separators [] []
  | cons (phrase : Phrase) {phrases : List Phrase} {gap ks : List Kind} :
      (∀ k ∈ gap, separators = true ∧ k = .separator) → BehindCommas separators phrases ks →
      BehindCommas separators (phrase :: phrases)
        (.symbol .comma :: (gap ++ (phrase.1 ++ ks)))

inductive Parenthesised : List Phrase → List Kind → Prop
  | nil : Parenthesised [] [.symbol .leftParen, .symbol .rightParen]
  | cons (phrase : Phrase) {phrases : List Phrase} {ks : List Kind} :
      BehindCommas true phrases ks →
      Parenthesised (phrase :: phrases)
        (.symbol .leftParen :: (phrase.1 ++ (ks ++ [Kind.symbol .rightParen])))

/-- Arguments without parentheses, on one line. -/
inductive Bare : List Phrase → List Kind → Prop
  | nil : Bare [] []
  | cons (phrase : Phrase) {phrases : List Phrase} {ks : List Kind} :
      BehindCommas false phrases ks → Bare (phrase :: phrases) (phrase.1 ++ ks)

/-- The keywords that stand for calls, with the ways in which their arguments may be written. -/
inductive KeywordArguments : Keyword → List Phrase → List Kind → Prop
  | parenthesised {k : Keyword} {phrases : List Phrase} {ks : List Kind} :
      k ∈ [.print, .printf, .getline, .next, .nextfile, .exit] → Parenthesised phrases ks →
      KeywordArguments k phrases ks
  | bare {k : Keyword} {phrases : List Phrase} {ks : List Kind} :
      k ∈ [.print, .printf] → Bare phrases ks → KeywordArguments k phrases ks
  | none {k : Keyword} : k ∈ [.getline, .next, .nextfile, .exit] → KeywordArguments k [] []
  | status (phrase : Phrase) : KeywordArguments .exit [phrase] phrase.1

/-- The expressions of a level, with the tokens that they are derived from. -/
inductive Derives : Level → List Kind → Expr → Prop
  | tighter {level : Level} {ks : List Kind} {e : Expr} :
      Derives (tighter level) ks e → Derives level ks e
  | assign {ts vs : List Kind} {target value : Expr} {l : Location} :
      Derives .ternary ts target → Derives .assignment vs value →
      Derives .assignment (ts ++ Kind.symbol .assign :: vs) (.assign .plain target value l)
  | compound {sign : Symbol} {op : Operator} {ts vs : List Kind} {target value : Expr}
      {l l' : Location} : (sign, op) ∈ compounds →
      Derives .ternary ts target → Derives .assignment vs value →
      Derives .assignment (ts ++ Kind.symbol sign :: vs)
        (.assign (.compound op) target (.binary op target value l') l)
  | ternary {cs as bs : List Kind} {c a b : Expr} {l : Location} :
      Derives (.chain .or) cs c → Derives .ternary as a → Derives .ternary bs b →
      Derives .ternary (cs ++ Kind.symbol .question :: (as ++ Kind.symbol .colon :: bs))
        (.ternary c a b l)
  | chain {chain : Chain} {k : Kind} {op : Operator} {ls rs : List Kind} {left right : Expr}
      {l : Location} : (k, op) ∈ operators chain →
      Derives (.chain chain) ls left → Derives (tighter (.chain chain)) rs right →
      Derives (.chain chain) (ls ++ k :: rs) (.binary op left right l)
  | concatenation {k : Kind} {ls rs : List Kind} {left right : Expr} {l : Location} :
      Derives (.chain .additive) ls left → Derives .concatenation (k :: rs) right → Joins k →
      Derives .concatenation (ls ++ k :: rs) (.binary .concatenation left right l)
  | exponent {ls rs : List Kind} {left right : Expr} {l : Location} :
      Derives .step ls left → Derives .exponent rs right →
      Derives .exponent (ls ++ Kind.symbol .caret :: rs) (.binary .exponent left right l)
  | trailingStep {sign : Symbol} {op : Operator} {ks : List Kind} {e : Expr} {l l' : Location} :
      (sign, op) ∈ trailingSteps → Derives .primary ks e →
      Derives .step (ks ++ [Kind.symbol sign]) (.assign .step e (.unary op e l') l)
  | leadingStep {sign : Symbol} {op : Operator} {ks : List Kind} {e : Expr} {l l' : Location} :
      (sign, op) ∈ leadingSteps → Derives .primary ks e →
      Derives .primary (.symbol sign :: ks) (.assign .step e (.unary op e l') l)
  | sign {sign : Symbol} {op : Operator} {ks : List Kind} {e : Expr} {l : Location} :
      (sign, op) ∈ signs → Derives .exponent ks e →
      Derives .primary (.symbol sign :: ks) (.unary op e l)
  | field {ks : List Kind} {e : Expr} {l : Location} : Derives .primary ks e →
      Derives .primary (.symbol .dollar :: ks) (.unary .dollar e l)
  | string (text : String) :
      Derives .primary [.string text] (.const (String.ofList (Parser.decodeEscapes text.toList)))
  | number (text : String) : Derives .primary [.number text] (.const text)
  | pattern (text : String) : Derives .primary [.pattern text] (.pattern text)
  | group {ks : List Kind} {e : Expr} : Derives .assignment ks e →
      Derives .primary (.symbol .leftParen :: (ks ++ [Kind.symbol .rightParen])) e
  | var {name : String} {l : Location} : Derives .primary [.word name] (.var name l)
  | elem {name : String} {ks : List Kind} {index : Expr} {l : Location} :
      Derives .assignment ks index →
      Derives .primary (.word name :: .symbol .leftBracket :: (ks ++ [Kind.symbol .rightBracket]))
        (.elem name index l)
  | call {name : String} {phrases : List Phrase} {ks : List Kind} {l : Location} :
      (∀ phrase ∈ phrases, Derives .assignment phrase.1 phrase.2) → Parenthesised phrases ks →
      Derives .primary (.word name :: ks) (.call name (phrases.map Prod.snd) l)
  | keywordCall {k : Keyword} {phrases : List Phrase} {ks : List Kind} {l : Location} :
      (∀ phrase ∈ phrases, Derives .assignment phrase.1 phrase.2) →
      KeywordArguments k phrases ks →
      Derives .primary (.keyword k :: ks) (.call k.spelling (phrases.map Prod.snd) l)

theorem Derives.ne_nil {level : Level} {ks : List Kind} {e : Expr} (h : Derives level ks e) :
    ks ≠ [] := by
  induction h with
  | tighter _ ih => exact ih
  | _ => simp

/-! ## The tables of the parser -/

theorem operator?_mem {chain : Chain} {k : Kind} {op : Operator}
    (h : chain.operator? k = some op) : (k, op) ∈ operators chain ∧ k ≠ .eof := by
  unfold Chain.operator? at h
  split at h
  · unfold Chain.ofSymbol? at h
    split at h <;> simp_all [operators]
  · split at h
    · simp_all [operators]
    · cases h
  · cases h

theorem operator?_of_mem {chain : Chain} {p : Kind × Operator} (mem : p ∈ operators chain) :
    chain.operator? p.1 = some p.2 ∧ p.1 ≠ .eof := by
  have all : ∀ p ∈ operators chain, chain.operator? p.1 = some p.2 ∧ p.1 ≠ .eof := by
    cases chain <;> decide
  exact all p mem

theorem assignForm?_cases {k : Kind} {form : AssignForm} (h : Parser.assignForm? k = some form) :
    (form = .plain ∧ k = .symbol .assign) ∨
      ∃ sign op, form = .compound op ∧ k = .symbol sign ∧ (sign, op) ∈ compounds := by
  unfold Parser.assignForm? at h
  split at h
  · exact .inl ⟨(Option.some.inj h).symm, rfl⟩
  · exact .inr ⟨_, _, (Option.some.inj h).symm, rfl, by decide⟩
  · exact .inr ⟨_, _, (Option.some.inj h).symm, rfl, by decide⟩
  · exact .inr ⟨_, _, (Option.some.inj h).symm, rfl, by decide⟩
  · exact .inr ⟨_, _, (Option.some.inj h).symm, rfl, by decide⟩
  · exact .inr ⟨_, _, (Option.some.inj h).symm, rfl, by decide⟩
  · exact .inr ⟨_, _, (Option.some.inj h).symm, rfl, by decide⟩
  · cases h

theorem trailingStep?_mem {k : Kind} {op : Operator} (h : Parser.trailingStep? k = some op) :
    ∃ sign, k = .symbol sign ∧ (sign, op) ∈ trailingSteps := by
  unfold Parser.trailingStep? at h
  split at h <;> simp_all [trailingSteps]

theorem joins_of_eq_true {k : Kind} (h : Parser.joins k = true) : Joins k := by
  unfold Parser.joins at h
  split at h
  · exact .word _
  · exact .number _
  · exact .string _
  · simp only [List.mem_cons, List.not_mem_nil, or_false, decide_eq_true_eq] at h
    rcases h with rfl | rfl | rfl | rfl | rfl
    · exact .dollar
    · exact .leftParen
    · exact .not
    · exact .increment
    · exact .decrement
  · cases h

end PatternAction.Grammar

/-! ## Ranks -/

namespace PatternAction.Level

open Grammar (tighter)

def rank : Level → Nat
  | .assignment => 12
  | .ternary => 11
  | .chain .or => 10
  | .chain .and => 9
  | .chain .membership => 8
  | .chain .matching => 7
  | .chain .comparison => 6
  | .concatenation => 5
  | .chain .additive => 4
  | .chain .multiplicative => 3
  | .exponent => 2
  | .step => 1
  | .primary => 0

theorem rank_tighter {l : Level} (h : l ≠ .primary) : (tighter l).rank + 1 = l.rank := by
  cases l with
  | chain chain => cases chain <;> rfl
  | primary => exact absurd rfl h
  | _ => rfl

theorem rank_le (l : Level) : l.rank ≤ 12 := by
  cases l with
  | chain chain => cases chain <;> decide
  | _ => decide

end PatternAction.Level
