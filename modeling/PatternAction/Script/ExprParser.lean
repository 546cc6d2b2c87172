import PatternAction.Script.Parser

/-!
Expressions, by levels of precedence.  Each level is written over the parsers of the levels it
uses, and one function of the fuel ties them together.
-/

set_option autoImplicit false
set_option relaxedAutoImplicit false

namespace PatternAction

/-- The levels whose operators group to the left. -/
inductive Chain where
  | or | and | membership | matching | comparison | additive | multiplicative
deriving DecidableEq, Repr

inductive Level where
  | assignment
  | ternary
  | chain (c : Chain)
  | concatenation
  | exponent
  | step
  | primary
deriving DecidableEq, Repr

namespace Chain

def operand : Chain → Level
  | .or => .chain .and
  | .and => .chain .membership
  | .membership => .chain .matching
  | .matching => .chain .comparison
  | .comparison => .concatenation
  | .additive => .chain .multiplicative
  | .multiplicative => .exponent

def ofSymbol? : Chain → Symbol → Option Operator
  | .or, .or => some .or
  | .and, .and => some .and
  | .matching, .match => some .match
  | .matching, .notMatch => some .notMatch
  | .comparison, .less => some .lt
  | .comparison, .lessEqual => some .le
  | .comparison, .notEqual => some .ne
  | .comparison, .equal => some .eq
  | .comparison, .greater => some .gt
  | .comparison, .greaterEqual => some .ge
  | .additive, .plus => some .add
  | .additive, .minus => some .subtract
  | .multiplicative, .star => some .multiply
  | .multiplicative, .slash => some .divide
  | .multiplicative, .percent => some .modulo
  | _, _ => none

def operator? (c : Chain) : Token.Kind → Option Operator
  | .symbol s => c.ofSymbol? s
  | .keyword .in => if c = .membership then some .in else none
  | _ => none

end Chain

namespace Parser

def assignForm? : Token.Kind → Option AssignForm
  | .symbol .assign => some .plain
  | .symbol .plusAssign => some (.compound .add)
  | .symbol .minusAssign => some (.compound .subtract)
  | .symbol .starAssign => some (.compound .multiply)
  | .symbol .slashAssign => some (.compound .divide)
  | .symbol .percentAssign => some (.compound .modulo)
  | .symbol .caretAssign => some (.compound .exponent)
  | _ => none

/-- The operand that `++` or `--` behind it turns into a step. -/
def trailingStep? : Token.Kind → Option Operator
  | .symbol .increment => some .postInc
  | .symbol .decrement => some .postDec
  | _ => none

/-- Whether an operand put next to another may begin with such a token. -/
def joins : Token.Kind → Bool
  | .word _ | .number _ | .string _ => true
  | .symbol s => s ∈ [.dollar, .leftParen, .not, .increment, .decrement]
  | _ => false

/-- Decode the escapes of a string; unknown ones stay as they are written. -/
def decodeEscapes : List Char → List Char
  | [] => []
  | '\\' :: 'n' :: cs => '\n' :: decodeEscapes cs
  | '\\' :: 't' :: cs => '\t' :: decodeEscapes cs
  | '\\' :: 'r' :: cs => '\r' :: decodeEscapes cs
  | '\\' :: '\\' :: cs => '\\' :: decodeEscapes cs
  | '\\' :: '"' :: cs => '"' :: decodeEscapes cs
  | '\\' :: '/' :: cs => '/' :: decodeEscapes cs
  | '\\' :: c :: cs => '\\' :: c :: decodeEscapes cs
  | c :: cs => c :: decodeEscapes cs

/-- A target, an assigning token and a value, grouping to the right. -/
def assignment (sub : Level → Parser Expr) : Parser Expr := do
  let target ← sub .ternary
  let l ← location
  match assignForm? (← kind) with
  | none => return target
  | some form =>
    advance
    let value ← required (sub .assignment)
    match form with
    | .compound op => return .assign form target (.binary op target value l) l
    | _ => return .assign form target value l

def ternary (sub : Level → Parser Expr) : Parser Expr := do
  let condition ← sub (.chain .or)
  let l ← location
  if ← acceptSymbol .question then
    let whenTrue ← required (sub .ternary)
    expectSymbol .colon .colonExpected
    let whenFalse ← required (sub .ternary)
    return .ternary condition whenTrue whenFalse l
  else return condition

/-- What follows the left operand of a chain, grouping to the left. -/
def chainTail (operator? : Token.Kind → Option Operator) (operand : Parser Expr) :
    Nat → Expr → Parser Expr
  | 0, _ => outOfFuel
  | n + 1, left => do
    match operator? (← kind) with
    | none => return left
    | some op =>
      let l ← location
      advance
      let right ← required operand
      chainTail operator? operand n (.binary op left right l)

def concatenation (sub : Level → Parser Expr) : Parser Expr := do
  let left ← sub (.chain .additive)
  if joins (← kind) then
    let l ← location
    let right ← sub .concatenation
    return .binary .concatenation left right l
  else return left

def exponent (sub : Level → Parser Expr) : Parser Expr := do
  let left ← sub .step
  let l ← location
  if ← acceptSymbol .caret then
    let right ← required (sub .exponent)
    return .binary .exponent left right l
  else return left

def step (sub : Level → Parser Expr) : Parser Expr := do
  let operand ← sub .primary
  let l ← location
  match trailingStep? (← kind) with
  | none => return operand
  | some op =>
    advance
    return .stepBy op operand l

def callArgs (sub : Level → Parser Expr) (fuel : Nat) : Parser (List Expr) := do
  advance
  if ← acceptSymbol .rightParen then return []
  else
    let first ← sub .assignment
    let rest ← commaTail (do skipSeparators; sub .assignment) fuel
    expectSymbol .rightParen .closeParenExpected
    return first :: rest

def bareArgs (sub : Level → Parser Expr) (fuel : Nat) : Parser (List Expr) := do
  if endsStatement (← kind) then return []
  else
    let first ← sub .assignment
    let rest ← commaTail (required (sub .assignment)) fuel
    return first :: rest

/-- Arguments of a print: in parentheses if the statement ends behind them, else bare. -/
def printArgs (sub : Level → Parser Expr) (fuel : Nat) : Parser (List Expr) := do
  if ← atSymbol .leftParen then
    match ← wholeStatement? (callArgs sub fuel) with
    | some args => return args
    | none => bareArgs sub fuel
  else bareArgs sub fuel

/-- An operator in front of an operand that has to be there. -/
def leading (op : Operator) (operand : Parser Expr) (l : Location) : Parser Expr := do
  advance
  return .unary op (← required operand) l

/-- A `++` or `--` in front of an operand that has to be there. -/
def leadingStep (op : Operator) (operand : Parser Expr) (l : Location) : Parser Expr := do
  advance
  return .stepBy op (← required operand) l

/-- The call that a keyword stands for, with arguments only in parentheses. -/
def keywordCall (name : String) (sub : Level → Parser Expr) (fuel : Nat) (l : Location) :
    Parser Expr := do
  advance
  if ← atSymbol .leftParen then return .call name (← callArgs sub fuel) l
  else return .call name [] l

def exitCall (sub : Level → Parser Expr) (fuel : Nat) (l : Location) : Parser Expr := do
  advance
  if ← atSymbol .leftParen then return .call "exit" (← callArgs sub fuel) l
  else if ← atExpression then return .call "exit" [← sub .assignment] l
  else return .call "exit" [] l

/-- A word: a call, an element of an array, or a variable. -/
def name (text : String) (sub : Level → Parser Expr) (fuel : Nat) (l : Location) :
    Parser Expr := do
  advance
  if ← atSymbol .leftParen then return .call text (← callArgs sub fuel) l
  else if ← acceptSymbol .leftBracket then
    let index ← sub .assignment
    expectSymbol .rightBracket .closeBracketExpected
    return .elem text index l
  else return .var text l

def primary (sub : Level → Parser Expr) (fuel : Nat) : Parser Expr := do
  let l ← location
  match ← kind with
  | .string text =>
    advance
    return .const (String.ofList (decodeEscapes text.toList))
  | .number text =>
    advance
    return .const text
  | .pattern text =>
    advance
    return .pattern text
  | .word text => name text sub fuel l
  | .symbol .leftParen =>
    advance
    let inner ← sub .assignment
    expectSymbol .rightParen .closeParenExpected
    return inner
  | .symbol .not => leading .not (sub .exponent) l
  | .symbol .minus => leading .unaryNeg (sub .exponent) l
  | .symbol .plus => leading .unaryPos (sub .exponent) l
  | .symbol .dollar => leading .dollar (sub .primary) l
  | .symbol .increment => leadingStep .preInc (sub .primary) l
  | .symbol .decrement => leadingStep .preDec (sub .primary) l
  | .keyword .print =>
    advance
    return .call "print" (← printArgs sub fuel) l
  | .keyword .printf =>
    advance
    return .call "printf" (← printArgs sub fuel) l
  | .keyword .getline => keywordCall "getline" sub fuel l
  | .keyword .next => keywordCall "next" sub fuel l
  | .keyword .nextfile => keywordCall "nextfile" sub fuel l
  | .keyword .exit => exitCall sub fuel l
  | k => fail (.unexpected k)

def atLevel (sub : Level → Parser Expr) (fuel : Nat) : Level → Parser Expr
  | .assignment => assignment sub
  | .ternary => ternary sub
  | .chain c => do chainTail c.operator? (sub c.operand) fuel (← sub c.operand)
  | .concatenation => concatenation sub
  | .exponent => exponent sub
  | .step => step sub
  | .primary => primary sub fuel

def level : Nat → Level → Parser Expr
  | 0, _ => outOfFuel
  | n + 1, l => atLevel (level n) n l

/-- Fuel for every expression that the tokens left can hold: there are fewer than sixteen levels
between two tokens. -/
def exprFuel (c : Cursor) : Nat :=
  16 * (c.remaining + 1)

def expr : Parser Expr := fun c =>
  level (exprFuel c) .assignment c

end Parser

end PatternAction
