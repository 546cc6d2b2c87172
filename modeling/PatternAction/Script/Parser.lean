import PatternAction.Halt
import PatternAction.Script
import PatternAction.Token.Cursor

/-!
Parsers over a cursor: what they may refuse, and the small ones the grammar is built from.
-/

set_option autoImplicit false
set_option relaxedAutoImplicit false

namespace PatternAction

/-- Why a sequence of tokens is no script. -/
inductive ParseCause where
  | functionWithoutName
  | functionMalformed
  | braceExpected
  | whileExpected
  | openParenExpected
  | closeParenExpected
  | closeBracketExpected
  | separatorExpected
  | arrayNameExpected
  | colonExpected
  | expressionExpected
  | unexpected (kind : Token.Kind)
deriving DecidableEq, Repr

def ParseCause.message : ParseCause → String
  | .functionWithoutName => "No name for function"
  | .functionMalformed => "Function is not properly declared"
  | .braceExpected => "Expected a closing curly brace '\x7d'"
  | .whileExpected => "Expected 'while' after do block"
  | .openParenExpected => "Expected an opening parenthesis '('"
  | .closeParenExpected => "Expected a closing parenthesis ')'"
  | .closeBracketExpected => "Expected a closing square bracket ']'"
  | .separatorExpected => "Expected a ';' in for loop header"
  | .arrayNameExpected => "Expected an array name after 'delete'"
  | .colonExpected => "Expected a colon (':') after the true case expression"
  | .expressionExpected => "Expected another expression"
  | .unexpected kind => "unexpected " ++ kind.render

/-- A cause with the token at which parsing stopped. -/
structure ParseFault where
  cause : ParseCause
  found : Token
deriving DecidableEq, Repr

namespace ParseFault

def message (f : ParseFault) : String :=
  f.cause.message ++ ", found " ++ f.found.kind.render

def location (f : ParseFault) : Location :=
  f.found.location

end ParseFault

abbrev Parser (α : Type) := StateT Cursor (Except (Halt ParseFault)) α

namespace Parser

variable {α : Type}

def outOfFuel : Parser α :=
  throw .outOfFuel

def fail (cause : ParseCause) : Parser α := do
  throw (.fault ⟨cause, (← get).current⟩)

def kind : Parser Token.Kind :=
  return (← get).current.kind

def location : Parser Location :=
  return (← get).location

def check (k : Token.Kind) : Parser Bool :=
  return (← get).check k

def atSymbol (s : Symbol) : Parser Bool :=
  check (.symbol s)

def more : Parser Bool :=
  return (← get).more

def advance : Parser Unit :=
  modify fun c => c.advance.2

/-- Move over the current token if it is of this kind, and say so. -/
def accept (k : Token.Kind) : Parser Bool := do
  match (← get).take? k with
  | some (_, c) => set c; return true
  | none => return false

def acceptSymbol (s : Symbol) : Parser Bool :=
  accept (.symbol s)

def acceptKeyword (k : Keyword) : Parser Bool :=
  accept (.keyword k)

def skipSeparators : Parser Unit :=
  modify fun c => c.skipSeparators.2

def expectSymbol (s : Symbol) (cause : ParseCause) : Parser Unit := do
  unless ← acceptSymbol s do
    fail cause

def expectSeparator : Parser Unit := do
  unless ← accept .separator do
    fail .separatorExpected

def word? : Parser (Option String) := do
  match ← kind with
  | .word text => advance; return some text
  | _ => return none

def atExpression : Parser Bool :=
  return (← kind).startsExpression

def required (p : Parser α) : Parser α := do
  if ← atExpression then p else fail .expressionExpected

def endsStatement : Token.Kind → Bool
  | .separator | .eof => true
  | .symbol s => s == .rightBrace
  | _ => false

/-- Try a parser and keep its result only if a statement ends behind it; otherwise the cursor
stays where it was. -/
def wholeStatement? (p : Parser α) : Parser (Option α) := fun c =>
  match p c with
  | .ok (a, c') => if endsStatement c'.current.kind then .ok (some a, c') else .ok (none, c)
  | .error (.fault _) => .ok (none, c)
  | .error .outOfFuel => .error .outOfFuel

def commaTail (next : Parser α) : Nat → Parser (List α)
  | 0 => outOfFuel
  | n + 1 => do
    if ← acceptSymbol .comma then
      let a ← next
      return a :: (← commaTail next n)
    else return []

end Parser

end PatternAction
