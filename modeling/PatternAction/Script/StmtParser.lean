import PatternAction.Script.ExprParser

/-!
Statements, blocks, functions and whole scripts.
-/

set_option autoImplicit false
set_option relaxedAutoImplicit false

namespace PatternAction

namespace Parser

def condition : Parser Expr := do
  expectSymbol .leftParen .openParenExpected
  let e ← expr
  expectSymbol .rightParen .closeParenExpected
  return e

def statementsTail (stmt : Parser Stmt) : Nat → Parser (List Stmt)
  | 0 => outOfFuel
  | n + 1 => do
    skipSeparators
    if ← acceptSymbol .rightBrace then return []
    else if ← more then
      let s ← stmt
      return s :: (← statementsTail stmt n)
    else fail .braceExpected

def blockOf (stmt : Parser Stmt) (fuel : Nat) : Parser Block := do
  skipSeparators
  let l ← location
  if ← acceptSymbol .leftBrace then
    return .mk none (← statementsTail stmt fuel) l
  else return .mk none [← stmt] l

/-- Move over separators and an `else` behind them; without one the cursor stays. -/
def acceptElse : Parser Bool := fun c =>
  match c.skipSeparators.2.take? (.keyword .else) with
  | some (_, c') => .ok (true, c')
  | none => .ok (false, c)

def armsTail (block : Parser Block) : Nat → Parser (List Arm)
  | 0 => outOfFuel
  | n + 1 => do
    if ← acceptElse then
      if ← acceptKeyword .if then
        let c ← condition
        let body ← block
        return .mk (some c) body :: (← armsTail block n)
      else return [.mk none (← block)]
    else return []

def choice (block : Parser Block) (fuel : Nat) (l : Location) : Parser Stmt := do
  let c ← condition
  let body ← block
  return .choice (.mk (some c) body :: (← armsTail block fuel)) l

/-- An expression, unless the header goes on with a token of this kind. -/
def headerPart (stop : Token.Kind) : Parser (Option Expr) := do
  if ← check stop then return none else return some (← expr)

def membership? : Option Expr → Option (String × String)
  | some (.binary .in (.var name _) (.var array _) _) => some (name, array)
  | _ => none

def countedFor (block : Parser Block) (init : Option Expr) (l : Location) : Parser Stmt := do
  expectSeparator
  let c ← headerPart .separator
  expectSeparator
  let update ← headerPart (.symbol .rightParen)
  expectSymbol .rightParen .closeParenExpected
  return .for init c update (← block) l

/-- A loop, behind its `for`: over an array if the header is just `name in array`. -/
def forLoop (block : Parser Block) (l : Location) : Parser Stmt := do
  expectSymbol .leftParen .openParenExpected
  let init ← headerPart .separator
  match membership? init with
  | some (name, array) =>
    if ← acceptSymbol .rightParen then return .forIn name array (← block) l
    else countedFor block init l
  | none => countedFor block init l

def deletion (fuel : Nat) (l : Location) : Parser Stmt := do
  match ← word? with
  | none => fail .arrayNameExpected
  | some array =>
    if ← acceptSymbol .leftBracket then
      let first ← expr
      let rest ← commaTail expr fuel
      expectSymbol .rightBracket .closeBracketExpected
      return .delete array (first :: rest) l
    else return .delete array [] l

def doLoop (block : Parser Block) (l : Location) : Parser Stmt := do
  let body ← block
  skipSeparators
  unless ← acceptKeyword .while do
    fail .whileExpected
  return .doWhile body (← condition) l

def statementWith (block : Parser Block) (fuel : Nat) : Parser Stmt := do
  let l ← location
  match ← kind with
  | .keyword .continue =>
    advance
    return .continue l
  | .keyword .break =>
    advance
    return .break l
  | .keyword .if =>
    advance
    choice block fuel l
  | .keyword .for =>
    advance
    forLoop block l
  | .keyword .delete =>
    advance
    deletion fuel l
  | .keyword .while =>
    advance
    let c ← condition
    return .while c (← block) l
  | .keyword .do =>
    advance
    doLoop block l
  | .keyword .return =>
    advance
    if ← atExpression then return .return (some (← expr)) l else return .return none l
  | _ => return .expr (← expr)

def statementAt : Nat → Parser Stmt
  | 0 => outOfFuel
  | n + 1 => statementWith (blockOf (statementAt n) n) n

def statement : Parser Stmt := fun c =>
  statementAt (c.remaining + 1) c

def block : Parser Block := fun c =>
  blockOf statement (c.remaining + 1) c

def params : Nat → Parser (List String)
  | 0 => outOfFuel
  | n + 1 => do
    skipSeparators
    match ← word? with
    | none => fail .functionMalformed
    | some p =>
      if ← acceptSymbol .comma then return p :: (← params n) else return [p]

def function : Parser Function := do
  let l ← location
  advance
  match ← word? with
  | none => fail .functionWithoutName
  | some name =>
    expectSymbol .leftParen .functionMalformed
    let ps ← if ← atSymbol .rightParen then pure [] else params ((← get).remaining + 1)
    expectSymbol .rightParen .functionMalformed
    return ⟨name, ps, (← block).statements, l⟩

/-- Whether a statement that is no expression begins with such a token. -/
def startsStatement : Token.Kind → Bool
  | .keyword k => k ∈ [.if, .for, .while, .do, .continue, .break, .return, .delete]
  | _ => false

/-- A rule: a guard with a block or without, or a block alone. -/
def rule : Parser Rule := do
  let l ← location
  if (← atSymbol .leftBrace) || startsStatement (← kind) then
    let b ← block
    return .mk none b.statements b.location
  else
    let guard ← expr
    if ← atSymbol .leftBrace then return .mk (some guard) (← block).statements l
    else return .mk (some guard) [] l

/-- A function, a block around the records, or a rule, added to what was read before. -/
def item (p : Program) : Parser Program := do
  match ← kind with
  | .keyword .function => return { p with functions := p.functions ++ [← function] }
  | .keyword .begin =>
    advance
    return { p with begins := p.begins ++ [← block] }
  | .keyword .end =>
    advance
    return { p with ends := p.ends ++ [← block] }
  | _ => return { p with rules := p.rules ++ [← rule] }

def items : Nat → Program → Parser Program
  | 0, _ => outOfFuel
  | n + 1, p => do
    skipSeparators
    if ← more then items n (← item p) else return p

def program : Parser Program := fun c =>
  items (c.remaining + 1) .empty c

end Parser

namespace Program

def ofTokens (tokens : List Token) : Except (Halt ParseFault) Program :=
  (Parser.program (.ofTokens tokens)).map (·.1)

end Program

end PatternAction
